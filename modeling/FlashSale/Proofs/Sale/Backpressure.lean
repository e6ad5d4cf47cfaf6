import FlashSale.Proofs.Sale.Staff

/-!
# Backpressure

A pipeline never has more orders under way than its buffer and its workers can hold. When
no task is ready, it is as busy as it can be: an order waits in the buffer only while every
worker commits another one, and a purchase waits only while the buffer is full as well.
-/

namespace FlashSale.Sale

open AdmissionQueue

/-- What holds back the purchases of a pipeline of so many workers over a queue of so
many slots. Bounds hold at all times; who waits for what is told when no task is ready.
-/
structure Backpressure (workers capacity : Nat) (s : Sale) : Prop where
  /-- No more orders are being committed than there are workers. -/
  committing : s.committing ≤ workers
  buffered : s.queue.buffer.length ≤ capacity
  /-- Every accepted order was settled, is in the buffer or in the hands of a worker. -/
  accepted : (s.accepted.length : Int) = s.tally.processed + s.queue.buffer.length + s.carried
  unsettled : s.accepted.length ≤ s.tally.processed + capacity + workers
  /-- When no task is ready, workers that have an order commit it. -/
  inHand : s.ready = [] → s.carried = s.committing
  /-- When no task is ready, an order is in the buffer only while every worker commits. -/
  busy : s.ready = [] → s.queue.buffer ≠ [] → s.committing = workers
  /-- When no task is ready, a purchase is pending only while buffer and workers are full. -/
  pending : s.ready = [] → ∀ id r web uuid stage due,
    s.tasks.get? id = some (.purchase r web uuid stage due) →
      s.queue.buffer.length = capacity ∧ s.committing = workers

variable {s s₀ : Sale} {id : TaskId} {t : Task} {workers capacity commitLimit : Nat}
  {reservations : Reservations} {ledger : Ledger} {actions : List Action}

theorem Staffed.staff_le (staffed : s.Staffed workers capacity) : s.staff ≤ workers := by
  obtain all | ⟨-, fewer⟩ := staffed.staff
  · omega
  · exact fewer

/-- Whoever settles an order commits it: the stores in memory keep nobody waiting, and
so only the ledger does. -/
theorem Staffed.committing_of_settle (staffed : s.Staffed workers capacity) (quiet : s.ready = [])
    {owner : Owner} {order : Order} {stage : Settlement.Stage} {due giveUp : Nat}
    (found : s.tasks.get? id = some (.settle owner order stage due giveUp)) :
    owner = .worker ∧ stage = .committing := by
  refine ⟨(staffed.sound.tasks id _ found).1, ?_⟩
  have punctual := staffed.punctual id _ found
  cases staffed.attended.waits quiet found with
  | time sleeps later =>
      cases stage with
      | opening => cases sleeps
      | committing => rfl
      | restoring commit =>
          have passed : due ≤ s.now := punctual
          cases sleeps
          omega
  | slot offers => cases offers

theorem Staffed.carried_eq (staffed : s.Staffed workers capacity) (quiet : s.ready = []) :
    s.carried = s.committing := by
  refine Int.le_antisymm (Table.sum_le_sum fun id t found => ?_)
    (Table.sum_le_sum fun id t _ => t.committing_le_carries)
  cases t with
  | settle owner order stage due giveUp =>
      obtain ⟨rfl, rfl⟩ := staffed.committing_of_settle quiet found
      exact Int.le_refl 1
  | _ => exact Int.le_refl 0

/-- While there are orders in the buffer every worker is there, and commits. A worker
without an order would have taken one. -/
theorem Staffed.all_commit (staffed : s.Staffed workers capacity) (quiet : s.ready = [])
    (waiting : s.queue.buffer ≠ []) : s.committing = workers := by
  have all : s.staff = workers := by
    refine staffed.staff.resolve_right fun ends => ?_
    exact waiting (buffer_of_ended ends.1)
  rw [← all, ← staffed.carried_eq quiet]
  refine Int.le_antisymm (Table.sum_le_sum fun id t _ => t.carries_le_staff)
    (Table.sum_le_sum fun id t found => ?_)
  cases t with
  | settle owner =>
      obtain rfl : owner = .worker := (staffed.sound.tasks id _ found).1
      exact Int.le_refl 1
  | receive => exact absurd ((staffed.attended.idle_receiver quiet found).1) waiting
  | _ => exact Int.le_refl 0

/-- A purchase waits for a slot only, as the reservation store replies at once. While it
waits the buffer is full. -/
theorem Staffed.buffer_full (staffed : s.Staffed workers capacity) (quiet : s.ready = [])
    {r : PurchaseRequest} {web : Bool} {uuid : Uuid} {stage : Purchase.Stage} {due : Nat}
    (found : s.tasks.get? id = some (.purchase r web uuid stage due)) :
    s.queue.buffer.length = capacity := by
  have attended := staffed.attended
  have passed : due ≤ s.now := staffed.punctual id _ found
  cases attended.waits quiet found with
  | time sleeps =>
      cases sleeps
      omega
  | slot _ standing =>
      exact attended.orderly.buffer_full (attended.calm quiet) (List.ne_nil_of_mem standing)

/-- A pipeline holds back what its buffer and its workers cannot hold, and nothing else.
This follows from what is true of a staffed pipeline whose tasks are all attended to. -/
theorem pipeline_backpressure
    (opened : pipeline? reservations ledger workers capacity commitLimit = some s₀)
    (allowed : Obeys AtOnce s₀ actions) (reached : s = s₀.after actions)
    (below : s.ledger.VersionsBelowLimit) :
    Backpressure (max workers 1) (max capacity 1) s := by
  subst reached
  have staffed := (pipeline?_staffed opened).after allowed below
  generalize s₀.after actions = s at staffed
  have slots := staffed.attended.orderly.slots
  have balance := staffed.balance
  have few := staffed.staff_le
  have carried : s.carried ≤ s.staff := Table.sum_le_sum fun id t _ => t.carries_le_staff
  have committing : s.committing ≤ s.carried :=
    Table.sum_le_sum fun id t _ => t.committing_le_carries
  constructor
  case committing => omega
  case buffered => omega
  case accepted => exact balance
  case unsettled => omega
  case inHand => exact staffed.carried_eq
  case busy => exact staffed.all_commit
  case pending =>
    intro quiet id r web uuid stage due found
    have full := staffed.buffer_full quiet found
    refine ⟨full, staffed.all_commit quiet fun empty => ?_⟩
    rw [empty, List.length_nil] at full
    omega

/-- Three purchases meet a pipeline with one worker and one slot, whose commits take time: the order
of the first is being committed, that of the second is in the buffer, and the third waits. -/
def rush : List Action :=
  [.commitDelay 10, .turn 0,
    .start (.purchase ⟨"r1", "ann", "tea", 1⟩ false ⟨1⟩ .entering 0), .turn 1, .turn 1, .turn 1,
    .turn 1, .turn 0, .turn 0, .turn 0,
    .start (.purchase ⟨"r2", "bob", "tea", 1⟩ false ⟨2⟩ .entering 0), .turn 2, .turn 2, .turn 2,
    .turn 2,
    .start (.purchase ⟨"r3", "cat", "tea", 1⟩ false ⟨3⟩ .entering 0), .turn 3, .turn 3, .turn 3,
    .turn 3]

theorem pipeline_backpressure_rush : ∃ s₀ s,
    pipeline? { ttl := 1000, counters := Table.empty.insert "tea" 5 } {} 1 1 5000 = some s₀ ∧
    Obeys AtOnce s₀ rush ∧ s = s₀.after rush ∧ s.ledger.VersionsBelowLimit ∧
    Backpressure 1 1 s ∧ s.ready = [] ∧ s.queue.buffer.length = 1 ∧ s.committing = 1 ∧
    s.tasks.contains 3 = true := by
  have turn {s : Sale} {id : TaskId} : s.AtOnce (.turn id) :=
    ⟨trivial, fun _ starts => nomatch starts⟩
  have purchase {s : Sale} {r : PurchaseRequest} {uuid : Uuid} :
      s.AtOnce (.start (.purchase r false uuid .entering 0)) := by
    refine ⟨rfl, ?_⟩
    rintro _ ⟨⟩
    exact Nat.zero_le _
  have obeys (s₀ : Sale) : Obeys AtOnce s₀ rush :=
    ⟨⟨trivial, fun _ starts => nomatch starts⟩, turn, purchase, turn, turn, turn, turn, turn, turn,
      turn, purchase, turn, turn, turn, turn, purchase, turn, turn, turn, turn, trivial⟩
  have pressure (s₀ : Sale)
      (opened : pipeline? { ttl := 1000, counters := Table.empty.insert "tea" 5 } {} 1 1 5000 =
        some s₀) (below : (s₀.after rush).ledger.VersionsBelowLimit) :=
    pipeline_backpressure opened (obeys s₀) rfl below
  exact ⟨_, _, rfl, obeys _, rfl, by decide, pressure _ rfl (by decide), rfl, rfl, rfl, rfl⟩

end FlashSale.Sale
