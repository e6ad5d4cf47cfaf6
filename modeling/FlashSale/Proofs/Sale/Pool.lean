import FlashSale.Proofs.Sale.Books
import FlashSale.Proofs.Sale.Overtaking
import FlashSale.Proofs.Sale.Staff

/-!
# A pool of workers

Workers share the receiving end of a queue into which nobody sends any more. They take turns in
any order, so that a worker may commit its order before another one commits an earlier order:
the stock may go to the later of two orders that are in hand at once.

An order counts as settled when its settlement ends, with its commit or with the attempt to put
its stock back. What the ledger refused it would refuse later too, since commits only take stock
and identifiers away. So at all times the books are those of the settled orders, settled one
after the other, and the orders that are left are those in hand and then those in the queue.

`Draining` says so of a pool, and `PoolTurn` lists what a turn can do there.
-/

namespace FlashSale

/-- So many steps at most until the order is settled. -/
def Settlement.Stage.toGo : Settlement.Stage → Int
  | .opening => 3
  | .committing => 2
  | .restoring _ => 1

/-- The order that a worker has in its hands. -/
def Task.inHand? : Task → Option Order
  | settle .worker order .. => some order
  | _ => none

/-- What a pool is to do: the orders that it finds in the queue, the books before any of them is
settled, and how many orders it may have in its hands at once. -/
structure Workload where
  hands : Nat
  books : Books
  orders : List Order

/-- The orders are for positive quantities, and no number leaves its range in whatever
order so many hands settle them. Then no worker is lost at its work. -/
structure Workload.Feasible (work : Workload) : Prop where
  someone : 0 < work.hands
  positive : ∀ order ∈ work.orders, 0 < order.quantity.toInt
  fits : ∀ settled, Draws work.hands work.orders settled → work.books.FitsAll settled

namespace Workload.Feasible

variable {work : Workload} {hands : Nat}

/-- Fewer hands have fewer orders to choose from. -/
theorem fewer (feasible : work.Feasible) (someone : 0 < hands) (enough : hands ≤ work.hands) :
    ({ work with hands } : Workload).Feasible where
  someone := someone
  positive := feasible.positive
  fits settled draws := feasible.fits settled (draws.mono enough)

/-- Work is feasible for any number of hands where there is room for all orders
together. This is easier to see of the books than the definition. -/
theorem of_room (someone : 0 < work.hands)
    (positive : ∀ order ∈ work.orders, 0 < order.quantity.toInt)
    (below : ∀ item row, work.books.ledger.inventory.get? item = some row →
      row.version.toInt + work.orders.length ≤ 2147483647)
    (room : ∀ item, work.books.reservations.counter item +
      (work.orders.map fun order => order.quantity.toInt).sum ≤ 9223372036854775807) :
    work.Feasible where
  someone := someone
  positive := positive
  fits settled draws := by
    have same := draws.perm
    refine .of_room (fun order member => positive order (same.subset member)) ?_ ?_
    · rw [same.length_eq]
      exact below
    · rw [(same.map _).sum_eq]
      exact room

end Workload.Feasible

namespace Sale

open AdmissionQueue

/-- The stores and the statistics, without the moments at which rows were changed. -/
def books (s : Sale) : Books := ⟨s.reservations, s.ledger.timeless, s.tally⟩

/-- The order that a worker has in its hands. An order that somebody outside settles is
not among them. -/
def inHand? (s : Sale) (id : TaskId) : Option Order := (s.tasks.get? id).bind Task.inHand?

/-- Workers are started once, the queue is closed and the end of the workers is waited for. Time
may pass, and whose turn it is does not matter. -/
def Drains (s : Sale) : Action → Prop
  | .turn _ => True
  | .elapse _ => True
  | .startWorkers _ => s.receiverHeld = true
  | .close => True
  | .shutdown => s.receiverHeld = false ∧ ∀ id, s.tasks.get? id ≠ some .join
  | _ => False

/-- The rule of a pool that never has more orders in its hands at once. With one hand,
orders are settled one after the other. -/
def DrainsBy (hands : Nat) (s : Sale) (a : Action) : Prop :=
  s.Drains a ∧ (s.perform a).carried ≤ hands

/-- What a task of a pool may be at. No store call keeps it waiting, and only an order that the
ledger refuses has its stock put back. -/
def Employs (s : Sale) : Task → Prop
  | .settle .worker _ .opening _ _ => True
  | .settle .worker _ .committing due _ => due ≤ s.now
  | .settle .worker order (.restoring _) due _ => due ≤ s.now ∧ ¬ s.ledger.Accepts order
  | .receive .worker => True
  | .join => True
  | _ => False

/-- How far a pool has come with its work: what is settled, and what each worker has in
its hands, in the order in which the orders left the queue. The rest of the work is
still in the buffer. -/
structure Progress (work : Workload) (settled : List Order) (held : List (TaskId × Order))
    (s : Sale) : Prop where
  books : work.books.settleAll? settled = some s.books
  /-- In whatever order the rest is settled by these hands, they may have settled all like that. -/
  ahead : ∀ rest, Draws work.hands (held.map Prod.snd ++ s.queue.buffer) rest →
    Draws work.hands work.orders (settled ++ rest)
  distinct : (held.map Prod.fst).Nodup
  inHand : ∀ id order, (id, order) ∈ held ↔ s.inHand? id = some order

/-- A pool at its work. The fields say what keeps it going, and the last one how far it
has come. -/
structure Draining (capacity : Nat) (work : Workload) (s : Sale) : Prop where
  feasible : work.Feasible
  attended : s.Attended capacity
  employs : ∀ id t, s.tasks.get? id = some t → s.Employs t
  delay : s.ledger.commitDelay = 0
  latency : s.latency.putBack = 0
  faultless : s.faultyItem = none
  buyers : s.queue.buyers = []
  kept : s.queue.deserted = true → s.queue.ended = true
  staffed : s.receiverHeld = true ∨ s.hasWorkers = true ∨ s.queue.ended = true
  /-- At most one task waits for the workers, which have been started. -/
  joins : ∀ id, s.tasks.get? id = some .join →
    s.receiverHeld = false ∧ ∀ other, s.tasks.get? other = some .join → other = id
  /-- The statistics were given out when no worker was left to change them. -/
  told : ∀ id stats, (id, .joined stats) ∈ s.answers →
    stats = s.tally ∧ s.hasWorkers = false ∧ s.receiverHeld = false
  few : s.carried ≤ work.hands
  progress : ∃ settled held, s.Progress work settled held

/-- What a turn does in a pool. Only `settled` changes the books, and only `took` and
`settled` change what is in hand. -/
inductive PoolTurn (s : Sale) (me : TaskId) : Sale → Prop where
  | slept (absent : s.tasks.get? me = none) : PoolTurn s me { s with ready := s.ready.erase me }
  | idle (found : s.tasks.get? me = some (.receive .worker)) :
      PoolTurn s me { s with queue := s.queue.joinLine me, ready := s.ready.erase me }
  | took {order queue woken} (found : s.tasks.get? me = some (.receive .worker))
      (buffer : s.queue.buffer = order :: queue.buffer) (buyers : queue.buyers = [])
      (doors : SameDoors s.queue queue) (few : woken.length ≤ 1) :
      PoolTurn s me
        { s with
          queue
          ready := s.ready ++ woken
          tasks := s.tasks.insert me (.settle .worker order .opening s.now s.now) }
  | left {queue ready timers log} (found : s.tasks.get? me = some (.receive .worker))
      (before : s.queue.ended = true) (ends : queue.ended = true)
      (few : ready.length ≤ (s.ready.erase me).length + 2) :
      PoolTurn s me
        { s with
          tasks := s.tasks.erase me
          queue
          ready
          timers
          log
          answers := s.answers ++ [(me, .ended)] }
  | went {order stage stage' due due' giveUp giveUp'}
      (found : s.tasks.get? me = some (.settle .worker order stage due giveUp))
      (employed : s.Employs (.settle .worker order stage' due' giveUp'))
      (fewer : stage'.toGo < stage.toGo) :
      PoolTurn s me
        { s with tasks := s.tasks.insert me (.settle .worker order stage' due' giveUp') }
  | settled {order stage due giveUp reservations ledger tally log}
      (found : s.tasks.get? me = some (.settle .worker order stage due giveUp))
      (finished : s.books.settle? order = some ⟨reservations, ledger.timeless, tally⟩)
      (delay : ledger.commitDelay = s.ledger.commitDelay)
      (refuses : ∀ other, ledger.Accepts other → s.ledger.Accepts other) :
      PoolTurn s me
        { s with
          reservations
          ledger
          tally
          log
          tasks := s.tasks.insert me (.receive .worker) }
  | joining (found : s.tasks.get? me = some .join) (busy : s.hasWorkers = true) :
      PoolTurn s me { s with ready := s.ready.erase me }
  | joined {timers log} (found : s.tasks.get? me = some .join) (alone : s.hasWorkers = false) :
      PoolTurn s me
        { s with
          tasks := s.tasks.erase me
          ready := s.ready.erase me
          timers
          log
          answers := s.answers ++ [(me, .joined s.tally)] }

variable {capacity : Nat} {work : Workload} {settled : List Order} {held : List (TaskId × Order)}
  {s s' : Sale} {me id : TaskId} {t : Task} {order : Order}

theorem inHand?_eq_some : s.inHand? id = some order ↔
    ∃ stage due giveUp, s.tasks.get? id = some (.settle .worker order stage due giveUp) := by
  constructor
  · intro mine
    obtain ⟨t, found, mine⟩ := Option.bind_eq_some_iff.mp mine
    cases t with
    | settle owner order' stage due giveUp =>
        cases owner with
        | worker =>
            cases mine
            exact ⟨stage, due, giveUp, found⟩
        | caller => cases mine
    | _ => cases mine
  · rintro ⟨stage, due, giveUp, found⟩
    rw [inHand?, found]
    rfl

/-- No more orders are listed as held than workers have in their hands, since each is
with a worker of its own. -/
theorem Progress.few (progress : s.Progress work settled held) : (held.length : Int) ≤ s.carried := by
  have each : ∀ id ∈ held.map Prod.fst, ∃ t, s.tasks.get? id = some t ∧ 1 ≤ t.carries := by
    intro id member
    obtain ⟨⟨_, order⟩, here, rfl⟩ := List.mem_map.mp member
    obtain ⟨stage, due, giveUp, found⟩ := inHand?_eq_some.mp ((progress.inHand _ _).mp here)
    exact ⟨_, found, Int.le_refl 1⟩
  have nonneg (t : Task) : 0 ≤ t.carries := by
    cases t with
    | settle owner => cases owner <;> simp [Task.carries]
    | _ => exact Int.le_refl 0
  have fewer := Table.length_le_sum nonneg progress.distinct each
  rw [List.length_map] at fewer
  exact fewer

/-- An order that a worker has in its hands may be the next one that is settled. The
others stay in hand, in the order in which they left the queue. -/
theorem Progress.next (progress : s.Progress work settled held) (few : s.carried ≤ work.hands)
    (mine : s.inHand? me = some order) : ∃ front back, held = front ++ (me, order) :: back ∧
      ∀ rest, Draws work.hands ((front ++ back).map Prod.snd ++ s.queue.buffer) rest →
        Draws work.hands work.orders (settled ++ order :: rest) := by
  obtain ⟨front, back, rfl⟩ := List.append_of_mem ((progress.inHand me order).mpr mine)
  refine ⟨front, back, rfl, fun rest draws => progress.ahead _ ?_⟩
  have length := progress.few
  rw [List.length_append, List.length_cons] at length
  rw [List.map_append, List.append_assoc] at draws ⊢
  refine .draw ?_ draws
  rw [List.length_map]
  omega

/-- No number leaves its range when an order is settled that a worker has in its hands. -/
theorem Progress.fits (progress : s.Progress work settled held) (feasible : work.Feasible)
    (few : s.carried ≤ work.hands) (mine : s.inHand? me = some order) :
    0 < order.quantity.toInt ∧ s.books.Fits order := by
  obtain ⟨front, back, rfl, next⟩ := progress.next few mine
  have draws := next _ (.inOrder feasible.someone _)
  have member : order ∈ work.orders := draws.perm.subset (by simp)
  exact ⟨feasible.positive order member, (feasible.fits _ draws).fits progress.books⟩

/-- The books are committed to as the ledger is. The moment makes no difference to the
reply, nor to anything but the date of a row. -/
theorem commit_books {reply : Reply Unit} {ledger : Ledger}
    (replied : s.ledger.commit s.clock order = (reply, ledger)) :
    s.books.ledger.commit (.ofMillis 0) order = (reply, ledger.timeless) := by
  rw [books, Ledger.timeless_commit _ _ s.clock, replied]

section Settling

variable {stage : Settlement.Stage} {due giveUp : Nat}
  (found : s.tasks.get? me = some (.settle .worker order stage due giveUp))

include found

theorem stepTask_settle :
    s.stepTask me = (s.stepSettle .worker order stage due giveUp).1.place me
      (.settle .worker order stage due giveUp) (s.stepSettle .worker order stage due giveUp).2 := by
  simp only [stepTask, found, act]

/-- A worker that has just got its order goes on to commit it, as no item is faulty. -/
theorem settle_opening (opening : stage = .opening) (faultless : s.faultyItem = none)
    (delay : s.ledger.commitDelay = 0) : PoolTurn s me (s.stepTask me) := by
  subst opening
  have healthy : s.faultyItem ≠ some order.itemId := by
    rw [faultless]
    exact nofun
  rw [stepTask_settle found, stepSettle, if_neg healthy]
  refine .went found ?_ (by simp [Settlement.Stage.toGo])
  change s.now + s.ledger.commitDelay ≤ s.now
  rw [delay]
  exact Nat.le_refl _

/-- The ledger decides at once: the order is settled, or the worker goes on to put the
stock back. -/
theorem settle_committing (committing : stage = .committing) (inTime : due ≤ s.now)
    (latency : s.latency.putBack = 0) (positive : 0 < order.quantity.toInt)
    (fits : s.books.Fits order) : PoolTurn s me (s.stepTask me) := by
  subst committing
  rw [stepTask_settle found, stepSettle, if_pos inTime]
  by_cases accepts : s.ledger.Accepts order
  · have below (row : Inventory) (here : s.ledger.inventory.get? order.itemId = some row) :
        row.version.toInt < 2147483647 :=
      fits.version ((s.ledger.timeless_accepts order).mpr accepts) row.timeless
        (by rw [books, Ledger.timeless_get?, here, Option.map_some])
    obtain ⟨ledger, replied⟩ : ∃ ledger,
        s.ledger.commit s.clock order = (.answer (.ok ()), ledger) :=
      Ledger.commit_of_accepts positive accepts below
    have settled := Books.settle?_of_ok (commit_books replied)
    rw [replied]
    exact .settled found settled (Ledger.commit_settings replied).commitDelay
      fun _ => Ledger.accepts_of_commit replied positive
  · obtain ⟨e, replied⟩ : ∃ e, s.ledger.commit s.clock order = (.answer (.error e), s.ledger) :=
      Ledger.commit_of_not_accepts accepts
    rw [replied]
    refine .went found ⟨?_, accepts⟩ (by simp [Settlement.Stage.toGo])
    rw [latency]
    exact Nat.le_refl _

/-- The stock of an order that was refused is put back, or the attempt fails. Either way
the order is settled. -/
theorem settle_restoring {commit : CommitError} (restoring : stage = .restoring commit)
    (inTime : due ≤ s.now) (refused : ¬ s.ledger.Accepts order) (fits : s.books.Fits order) :
    PoolTurn s me (s.stepTask me) := by
  subst restoring
  rw [stepTask_settle found, stepSettle, if_pos inTime]
  have still : ¬ s.books.ledger.Accepts order := fun accepts =>
    refused ((s.ledger.timeless_accepts order).mp accepts)
  have settles := Books.settle?_of_not_accepts still
  rcases replied : s.reservations.putBack order.itemId order.quantity with ⟨reply | _, reservations⟩
  · cases reply with
    | ok =>
        have restored := settles.trans (Books.restore?_of_ok (b := s.books) replied)
        exact .settled found restored rfl fun _ accepts => accepts
    | error e =>
        have failed := settles.trans (Books.restore?_of_error (b := s.books) replied)
        exact .settled found failed rfl fun _ accepts => accepts
  · exact absurd replied (fits.counter still reservations)

end Settling

theorem leaveLine_few (q : AdmissionQueue) (receiver : TaskId) :
    (q.leaveLine receiver).2.length ≤ 1 := by
  rw [AdmissionQueue.leaveLine]
  dsimp only
  split
  · exact List.length_take_le ..
  · exact Nat.zero_le _

theorem wake_eq (s : Sale) (ids : List TaskId) :
    ∃ woken, s.wake ids = { s with ready := s.ready ++ woken } ∧ woken.length ≤ ids.length :=
  ⟨_, rfl, List.length_filter_le ..⟩

/-- At most one task is woken when the last worker is gone. Only one task of a pool
waits for that. -/
theorem wakeJoins_few (single : ∀ id other, s.tasks.get? id = some .join →
      s.tasks.get? other = some .join → other = id) :
    ∃ woken, s.wakeJoins = { s with ready := s.ready ++ woken } ∧ woken.length ≤ 1 := by
  unfold wakeJoins
  split
  · exact ⟨[], by rw [List.append_nil], Nat.zero_le _⟩
  · obtain ⟨woken, eq, few⟩ :=
      s.wake_eq ((s.tasks.entries.filter fun e => e.2.isJoin).map Prod.fst)
    refine ⟨woken, eq, few.trans ?_⟩
    have distinct : ((s.tasks.entries.filter fun e => e.2.isJoin).map Prod.fst).Nodup :=
      s.tasks.nodup.sublist (List.filter_sublist.map _)
    have joins : ∀ id ∈ (s.tasks.entries.filter fun e => e.2.isJoin).map Prod.fst,
        s.tasks.get? id = some .join := by
      intro id member
      obtain ⟨⟨_, t⟩, present, rfl⟩ := List.mem_map.mp member
      obtain ⟨here, join⟩ := List.mem_filter.mp present
      cases t with
      | join => exact Table.get?_eq_some_iff.mpr here
      | _ => cases join
    generalize (s.tasks.entries.filter fun e => e.2.isJoin).map Prod.fst = ids at distinct joins
    match ids with
    | [] => exact Nat.zero_le _
    | [_] => exact Nat.le_refl _
    | first :: second :: rest =>
        have same := single _ _ (joins first (by simp)) (joins second (by simp))
        simp [same] at distinct

theorem length_erase_append (id : TaskId) (ready woken : List TaskId) :
    ((ready ++ woken).erase id).length ≤ (ready.erase id).length + woken.length := by
  by_cases member : id ∈ ready
  · rw [List.erase_append_left _ member, List.length_append]
  · rw [List.erase_append_right _ member, List.length_append, List.erase_of_not_mem member]
    exact Nat.add_le_add_left List.length_erase_le _

/-- A worker that is over wakes at most one task. So the turns that a pool has left can
be counted. -/
theorem retire_few (nobody : s.queue.waiting = []) (single : ∀ id other,
      s.tasks.get? id = some .join → s.tasks.get? other = some .join → other = id)
    (id : TaskId) (t : Task) : ∃ queue woken timers, QueueAfter s t queue ∧ woken.length ≤ 1 ∧
      s.retire id t =
        { s with tasks := s.tasks.erase id, queue, ready := s.ready.erase id ++ woken, timers } := by
  have desert : ∃ queue, QueueAfter s t queue ∧
      (if t.isReceiver then (s.remove id).desertIfAlone else s.remove id) =
        { s.remove id with queue } := by
    cases receiver : t.isReceiver with
    | false => exact ⟨_, .kept, rfl⟩
    | true =>
        rw [if_pos rfl, desertIfAlone]
        split
        · exact ⟨_, .kept, rfl⟩
        · refine ⟨_, .deserted receiver, ?_⟩
          have silent : (s.remove id).queue.desert.2 = [] := nobody
          simp only [silent, wake, List.filter_nil, List.append_nil]
          rfl
  obtain ⟨queue, after, eq⟩ := desert
  unfold retire
  dsimp only
  rw [eq]
  split
  · have single' (id' other : TaskId) (here : (s.tasks.erase id).get? id' = some .join)
        (there : (s.tasks.erase id).get? other = some .join) : other = id' :=
      single id' other (get?_of_erase here) (get?_of_erase there)
    obtain ⟨woken, eq, few⟩ := wakeJoins_few (s := { s.remove id with queue }) single'
    exact ⟨queue, woken, _, after, few, eq⟩
  · exact ⟨queue, [], _, after, Nat.zero_le _, by rw [List.append_nil]; rfl⟩

/-- Whoever waits for the workers goes on waiting, or is told the statistics once none
is left. -/
theorem stepTask_join (found : s.tasks.get? me = some .join) : PoolTurn s me (s.stepTask me) := by
  simp only [stepTask, found, act, stepJoin]
  split
  · exact .joining found ‹_›
  · exact .joined found (by simpa using ‹¬ s.hasWorkers = true›)

namespace Draining

variable (draining : s.Draining capacity work)

include draining

/-- A worker without an order takes one, leaves when the stream has ended, or waits in
line. -/
theorem turn_receive (found : s.tasks.get? me = some (.receive .worker)) :
    PoolTurn s me (s.stepTask me) := by
  have buyers : (s.queue.joinLine me).buyers = [] := (joinLine_buyers ..).trans draining.buyers
  simp only [stepTask, found, act, stepReceive]
  split
  · split
    · rename_i order queue woken popped
      -- Nobody is in line for the slot, so only the next receiver is woken.
      have line := (pop?_lines popped).2
      obtain rfl : woken = [] := by
        rw [(List.append_eq_nil_iff.mp buyers).2] at line
        exact (List.append_eq_nil_iff.mp line.symm).1
      obtain ⟨woken, eq, few⟩ := wake_eq
        { s with queue := (queue.uncount.leaveLine me).1 } (queue.uncount.leaveLine me).2
      have buffer := buffer_of_pop? popped
      rw [joinLine_buffer] at buffer
      have line := s.queue.joinLine_doors me
      have taken := pop?_doors popped
      have left : Sale.leaveLine (wake { s with queue := queue.uncount } []) me =
          { s with queue := (queue.uncount.leaveLine me).1, ready := s.ready ++ woken } := by
        rw [← eq]
        simp [Sale.leaveLine, wake]
      rw [left]
      exact .took found buffer ((buyers_of_pop? popped).trans buyers)
        ⟨taken.closed.trans line.closed, taken.deserted.trans line.deserted⟩
        (few.trans (leaveLine_few ..))
    · split
      · rename_i ends
        obtain ⟨first, left, few⟩ := wake_eq
          { s with queue := ((s.queue.joinLine me).leaveLine me).1 }
          ((s.queue.joinLine me).leaveLine me).2
        have left : Sale.leaveLine { s with queue := s.queue.joinLine me } me =
            { s with queue := ((s.queue.joinLine me).leaveLine me).1, ready := s.ready ++ first } :=
          left
        have still : ((s.queue.joinLine me).leaveLine me).1.ended = true := ends
        obtain ⟨queue, second, timers, after, few', retired⟩ := retire_few
          (s := { s with
            queue := ((s.queue.joinLine me).leaveLine me).1
            ready := s.ready ++ first
            log := s.log ++ [.queueDrained] })
          (List.append_eq_nil_iff.mp buyers).2
          (fun id other here there => (draining.joins id here).2 other there) me (.receive .worker)
        rw [joinLine_ended] at ends
        simp only [left, emit, place, retired]
        refine .left found ends ((after.of_ended fun _ => still).2 still) ?_
        have erased := length_erase_append me s.ready first
        have few := few.trans (leaveLine_few ..)
        rw [List.length_append]
        omega
      · exact .idle found
  · exact .idle found

/-- What a turn does in a pool is listed. All that follows about a pool goes by these
cases. -/
theorem turn (me : TaskId) : PoolTurn s me (s.stepTask me) := by
  cases found : s.tasks.get? me with
  | none =>
      rw [stepTask_of_get?_eq_none found]
      exact .slept found
  | some t =>
      have employs := draining.employs me t found
      cases t with
      | settle owner order stage due giveUp =>
          cases owner with
          | caller => cases employs
          | worker =>
              obtain ⟨settled, held, progress⟩ := draining.progress
              obtain ⟨positive, fits⟩ := progress.fits draining.feasible draining.few
                (inHand?_eq_some.mpr ⟨_, _, _, found⟩)
              cases stage with
              | opening => exact settle_opening found rfl draining.faultless draining.delay
              | committing =>
                  exact settle_committing found rfl employs draining.latency positive fits
              | restoring commit => exact settle_restoring found rfl employs.1 employs.2 fits
      | receive owner =>
          cases owner with
          | worker => exact draining.turn_receive found
          | caller => cases employs
      | join => exact stepTask_join found
      | _ => cases employs

end Draining

end Sale

end FlashSale
