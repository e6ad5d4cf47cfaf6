import FlashSale.Proofs.Sale.Draining

/-!
# A pool does what one after the other would do

A queue that holds orders is closed and drained by a pool of workers. Whoever takes turns, the
stores and the statistics end as if the orders had been settled one after the other, and the
orders that are persisted are those that the ledger accepts, first come, first served; it accepts
none while it cannot be reached. What comes first is told by the settlements: an order may overtake
those that other workers have in their hands at the same time, and no others. `backlog_misallotted`
has a pool of two workers in which this gives the stock to other orders than the queue would.

Where no two orders are in hand at once, as with a single worker or with workers that take turns
on one thread, the orders are settled as they stood in the queue, and the number of workers does
not matter.
-/

namespace FlashSale.Sale

open AdmissionQueue

/-- Orders are queued and nothing else goes on; store calls take effect at once. This is
where a pool begins. -/
structure Holds (capacity : Nat) (s : Sale) (orders : List Order) : Prop where
  buffer : s.queue.buffer = orders
  orderly : s.queue.Orderly capacity
  buyers : s.queue.buyers = []
  receivers : s.queue.receivers = []
  kept : s.queue.deserted = false
  held : s.receiverHeld = true
  tasks : s.tasks = ∅
  delay : s.ledger.commitDelay = 0
  latency : s.latency.putBack = 0
  faultless : s.faultyItem = none
  untold : ∀ id stats, (id, .joined stats) ∉ s.answers

/-- Settling the orders one after the other comes to the books, and those are persisted that the
durable stock covers, first come, first served. -/
structure Settles (s : Sale) (orders : List Order) (books : Books) : Prop where
  sequential : s.books.settleAll? orders = some books
  greedy : s.books.Persists (s.ledger.accepted orders) books

/-- Everything is done, as if the orders had been settled one after the other, in an order in
which so many hands may draw them from the queue. -/
def Serves (hands : Nat) (s : Sale) (orders : List Order) (s' : Sale) : Prop :=
  ∃ settled books, Draws hands orders settled ∧ s.Settles settled books ∧ s'.WoundUp books

variable {capacity hands : Nat} {work : Workload} {orders settled : List Order} {books : Books}
  {s s' : Sale} {actions : List Action}

/-- A feasible workload is settled in any order in which its hands may draw it. None of
the numbers gets in the way. -/
theorem Settles.of_draws (feasible : Workload.Feasible ⟨hands, s.books, orders⟩)
    (draws : Draws hands orders settled) : ∃ books, s.Settles settled books := by
  have positive : ∀ order ∈ settled, 0 < order.quantity.toInt := fun order member =>
    feasible.positive order (draws.perm.subset member)
  obtain ⟨books, sequential, greedy⟩ :=
    Books.settleAll?_persists positive (feasible.fits settled draws)
  have same : s.books.ledger.accepted settled = s.ledger.accepted settled :=
    s.ledger.timeless_accepted settled
  exact ⟨books, sequential, same ▸ greedy⟩

/-- A single hand leaves no choice, so that it serves the orders as they stood in the
queue. -/
theorem Serves.inOrder (serves : s.Serves 1 orders s') (settles : s.Settles orders books) :
    s'.WoundUp books := by
  obtain ⟨settled, books', draws, settles', woundUp⟩ := serves
  obtain rfl := draws.eq_of_one
  obtain rfl := Option.some.inj (settles'.sequential.symm.trans settles.sequential)
  exact woundUp

theorem Holds.get?_eq_none (holds : s.Holds capacity orders) (id : TaskId) :
    s.tasks.get? id = none := by
  rw [holds.tasks]
  rfl

/-- Where orders are queued a pool may begin, with nothing settled and nothing in hand.
-/
theorem Holds.draining (holds : s.Holds capacity orders)
    (feasible : Workload.Feasible ⟨hands, s.books, orders⟩) :
    s.Draining capacity ⟨hands, s.books, orders⟩ := by
  have nobody (id : TaskId) (t : Task) : s.tasks.get? id ≠ some t := by
    rw [holds.get?_eq_none id]
    exact (Option.some_ne_none t).symm
  have idle (f : Task → Int) : s.tasks.sum f = 0 :=
    Table.sum_eq_zero fun id t here => absurd here (nobody id t)
  constructor
  case feasible => exact feasible
  case attended =>
    refine ⟨holds.orderly, fun id t here => absurd here (nobody id t), fun id => ?_⟩
    refine .of_outside ?_ ?_ fun t here => absurd here (nobody id t)
    · rw [holds.buyers]
      exact List.not_mem_nil
    · rw [holds.receivers]
      exact List.not_mem_nil
  case employs => exact fun id t here => absurd here (nobody id t)
  case delay => exact holds.delay
  case latency => exact holds.latency
  case faultless => exact holds.faultless
  case buyers => exact holds.buyers
  case kept =>
    intro deserted
    rw [holds.kept] at deserted
    cases deserted
  case staffed => exact .inl holds.held
  case joins => exact fun id here => absurd here (nobody id .join)
  case told => exact fun id stats told => absurd told (holds.untold id stats)
  case few =>
    rw [carried, idle]
    exact Int.natCast_nonneg hands
  case progress =>
    refine ⟨[], [], rfl, fun rest draws => ?_, .nil, fun id order => ?_⟩
    · rw [List.map_nil, List.nil_append, holds.buffer] at draws
      exact draws
    · rw [inHand?, holds.get?_eq_none id]
      exact iff_of_false List.not_mem_nil (Option.some_ne_none order).symm

theorem Holds.crew (holds : s.Holds capacity orders) : s.Crew hands := by
  have none : s.staff = 0 := Table.sum_eq_zero fun id t here => by
    rw [holds.get?_eq_none id] at here
    cases here
  exact ⟨fun _ => none, by rw [none]; exact Int.natCast_nonneg hands⟩

/-- A pool may be started and shut down at once; no worker is at an order then. -/
theorem Holds.started (holds : s.Holds capacity orders) (workers : Nat) :
    Obeys (DrainsBy 1) s [.startWorkers workers, .shutdown] ∧
      (s.after [.startWorkers workers, .shutdown]).Leads := by
  have named : s.Named := fun id t here => by
    rw [holds.get?_eq_none id] at here
    cases here
  obtain ⟨tasks, ready, nextTask, log, eq, -, others⟩ := named.startWorkers_eq workers
  have only (id : TaskId) (t : Task) (here : (s.startWorkers workers).tasks.get? id = some t) :
      t = .receive .worker := by
    rw [eq] at here
    refine Classical.not_not.mp fun other => ?_
    have before := (others id t other).mp here
    rw [holds.get?_eq_none id] at before
    cases before
  have given : (s.startWorkers workers).receiverHeld = false := by rw [eq]
  have first : (s.startWorkers workers).Leads := by
    intro id order mine
    obtain ⟨stage, due, giveUp, found⟩ := inHand?_eq_some.mp mine
    cases only id _ found
  have second : (s.startWorkers workers).shutdown.Leads := by
    intro id order mine
    obtain ⟨stage, due, giveUp, found⟩ := inHand?_eq_some.mp mine
    have here : (s.startWorkers workers).shutdown.tasks.get? id =
        if id = (s.startWorkers workers).nextTask then some .join
        else (s.startWorkers workers).tasks.get? id := get?_spawn ..
    rw [here] at found
    split at found
    · cases found
    · cases only id _ found
  refine ⟨⟨⟨holds.held, first.carried_le⟩, ⟨⟨given, fun id join => ?_⟩, second.carried_le⟩, trivial⟩,
    second⟩
  cases only id .join join

/-- A pool stays a pool, and after a shutdown it is about to stop. The induction is on
the course. -/
theorem Draining.after (draining : s.Draining capacity work)
    (obeys : Obeys (DrainsBy work.hands) s actions) :
    (s.after actions).Draining capacity work ∧
      (.shutdown ∈ actions → (s.after actions).Stopping) := by
  refine obeys.invariant (P := fun done => (s.after done).Draining capacity work ∧
    (.shutdown ∈ done → (s.after done).Stopping)) ⟨draining, nofun⟩ ?_
  rintro done a ⟨draining, stopping⟩ rule
  rw [after_append]
  refine ⟨draining.perform rule, fun member => ?_⟩
  obtain before | now := List.mem_append.mp member
  · exact (stopping before).perform draining rule.1
  · obtain rfl := List.mem_singleton.mp now
    exact stopping_shutdown rule.1.1

/-- A pool that has come to rest after a shutdown has settled everything in some order.
What was left in the queue or in hand would keep it going. -/
theorem Draining.serves (draining : s'.Draining capacity ⟨hands, s.books, orders⟩)
    (stopping : s'.Stopping) (quiet : s'.ready = []) : s.Serves hands orders s' := by
  have woundUp := draining.woundUp stopping quiet
  obtain ⟨settled, held, progress⟩ := draining.progress
  have draws := progress.all_settled woundUp.buffer fun id => by
    rw [inHand?, woundUp.tasks]
    rfl
  obtain ⟨books, settles⟩ := Settles.of_draws draining.feasible draws
  obtain rfl := Option.some.inj (progress.books.symm.trans settles.sequential)
  exact ⟨settled, s'.books, draws, settles, woundUp⟩

/-- A pool that was to stop comes to rest when it runs, wherever it is known to keep to
its hands. The turns that are left are bounded by the work that is left. -/
theorem Draining.run (draining : s'.Draining capacity ⟨hands, s.books, orders⟩)
    (stopping : s'.Stopping) {P : Sale → Prop}
    (kept : ∀ s s' me, PoolTurn s me s' → s.ready.head? = some me → P s → P s')
    (few : ∀ s, P s → s.carried ≤ hands) (here : P s') :
    s'.run.ready = [] ∧ s.Serves hands orders s'.run := by
  obtain ⟨ids, eq, obeys, quiet⟩ := draining.runFor kept few here s'.load_le_budget
  have ran : s'.run = s'.after (ids.map .turn) := eq
  rw [ran]
  rw [eq] at quiet
  have all := obeys.invariant (P := fun done =>
    (s'.after done).Draining capacity ⟨hands, s.books, orders⟩ ∧ (s'.after done).Stopping)
    ⟨draining, stopping⟩ ?_
  · exact ⟨quiet, all.1.serves all.2 quiet⟩
  · rintro done a ⟨draining, stopping⟩ rule
    rw [after_append]
    exact ⟨draining.perform rule, stopping.perform draining rule.1⟩

end FlashSale.Sale
