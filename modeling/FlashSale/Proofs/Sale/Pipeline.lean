import FlashSale.Proofs.Sale.Stock

/-!
# A pipeline in action

`Permits` is the rule that the outside world obeys towards a pipeline over the two
stores in memory: it makes purchases, drops them, closes the queue, lets time pass,
throws the fault switches, and may call the stores. Stock is called for directly
only where no counter could leave its range if everything that is out came back.

`Sound` is the invariant of such a sale. Its heart is that somebody can still serve
the queue or the stream has ended, so that no order is ever left behind, and that
every counter has room for the stock that is out, so that no worker comes to grief.
-/

namespace FlashSale

/-- The order is the one that a purchase with this identifier makes for the request. -/
def Order.Fills (o : Order) (r : PurchaseRequest) (id : Uuid) : Prop :=
  ∃ now, o = .pending id r.userId r.itemId r.quantity now

namespace Task

/-- Whether somebody outside a pipeline may start the task. -/
def isRequest : Task → Bool
  | purchase _ _ _ stage _ => stage = .entering
  | ledger _ due => due.isNone
  | _ => false

/-- Whether somebody outside a pipeline may drop the task. Putting stock back does not
wait, so that a purchase cannot be dropped while it does. -/
def isDroppable : Task → Bool
  | purchase _ _ _ (.releasing _) _ => false
  | purchase .. => true
  | ledger .. => true
  | join => true
  | _ => false

/-- What is true of every task of a pipeline. A purchase past its first stage is for a
positive quantity, and its order is its own. -/
def Sound : Task → Prop
  | purchase r _ id stage _ =>
    match stage with
    | .entering => True
    | .marking => 0 < r.quantity.toInt
    | .reserving => 0 < r.quantity.toInt
    | .admitting order => 0 < r.quantity.toInt ∧ order.Fills r id
    | .releasing order => 0 < r.quantity.toInt ∧ order.Fills r id
  | release _ quantity _ => 0 < quantity.toInt
  | settle owner order _ _ _ => owner = .worker ∧ 0 < order.quantity.toInt
  | receive owner => owner = .worker
  | ledger .. => True
  | join => True
  | send _ => False
  | reservation .. => False

end Task

namespace Sale

/-- What the outside world may do to a pipeline. Stock is called for directly only where
there is room for it, and the receiving end belongs to the workers. -/
def Permits (s : Sale) : Action → Prop
  | .turn _ => True
  | .elapse _ => True
  | .start t => t.isRequest = true
  | .reserve call => (s.perform (.reserve call)).HasRoom
  | .seed .. => True
  | .cancel id => ∀ t, s.tasks.get? id = some t → t.isDroppable = true
  | .abandon id => ∀ t, s.tasks.get? id = some t → t.isDroppable = true
  | .close => True
  | .shutdown => True
  | .startWorkers _ => False
  | .dropReceiver => False
  | .reservationsUnavailable _ => True
  | .failIncrements _ => True
  | .ledgerUnavailable _ => True
  | .commitDelay _ => True
  | .latency _ => False
  | .faultyItem _ => False

/-- What is true of a pipeline at all times. Each field is an amount, a name or a worker
that some step could otherwise miss. -/
structure Sound (s : Sale) : Prop where
  fresh : ∀ id t, s.tasks.get? id = some t → id < s.nextTask
  tasks : ∀ id t, s.tasks.get? id = some t → t.Sound
  buffer : ∀ order ∈ s.queue.buffer, 0 < order.quantity.toInt
  staffed : s.hasWorkers = true ∨ s.queue.ended = true
  faultless : s.faultyItem = none
  room : s.HasRoom
  saved : Event.SavedFor s.ledger s.log
  losses : Event.LossesPositive s.log

end Sale

namespace Task

variable {t : Task}

/-- Only workers keep the receiving end of the queue of a pipeline open. -/
theorem Sound.isReceiver (sound : t.Sound) : t.isReceiver = t.isWorker := by
  cases t with
  | receive owner =>
      obtain rfl : owner = .worker := sound
      rfl
  | settle owner =>
      obtain rfl : owner = .worker := sound.1
      rfl
  | _ => rfl

theorem Sound.held_nonneg (sound : t.Sound) (item : String) : 0 ≤ t.held item := by
  cases t with
  | purchase r web id stage due =>
      cases stage with
      | admitting order =>
          obtain ⟨positive, now, rfl⟩ := sound
          exact Order.stockOf_nonneg positive item
      | releasing order =>
          obtain ⟨positive, now, rfl⟩ := sound
          exact Order.stockOf_nonneg positive item
      | _ => exact Int.le_refl 0
  | _ => exact Int.le_refl 0

theorem Sound.returning_nonneg (sound : t.Sound) (item : String) : 0 ≤ t.returning item := by
  cases t with
  | release item' quantity due =>
      have positive : 0 < quantity.toInt := sound
      change 0 ≤ if item' = item then quantity.toInt else 0
      split <;> omega
  | _ => exact Int.le_refl 0

theorem Sound.settling_nonneg (sound : t.Sound) (item : String) : 0 ≤ t.settling item := by
  cases t with
  | settle => exact Order.stockOf_nonneg sound.2 item
  | _ => exact Int.le_refl 0

/-- What a task answers for is never negative, so that no task can hide a loss of
another one. -/
theorem Sound.owned_nonneg (sound : t.Sound) (item : String) : 0 ≤ t.owned item := by
  have held := sound.held_nonneg item
  have returning := sound.returning_nonneg item
  have settling := sound.settling_nonneg item
  unfold owned
  omega

/-- A request owns no stock yet. Starting it changes no total. -/
theorem owned_of_isRequest (request : t.isRequest = true) (item : String) : t.owned item = 0 := by
  cases t with
  | purchase r web uuid stage due =>
      obtain rfl : stage = .entering := by simpa [Task.isRequest] using request
      rfl
  | ledger => rfl
  | _ => cases request

/-- Whatever somebody outside may start is sound: nothing is known of a request until
its quantity was looked at. -/
theorem Sound.of_isRequest (request : t.isRequest = true) : t.Sound := by
  cases t with
  | purchase r web uuid stage due =>
      obtain rfl : stage = .entering := by simpa [Task.isRequest] using request
      trivial
  | ledger => trivial
  | _ => cases request

end Task

namespace Sale.Sound

variable {s : Sale} (sound : s.Sound) (item : String)

include sound

theorem held_nonneg : 0 ≤ s.held item :=
  Table.sum_nonneg fun id t found => (sound.tasks id t found).held_nonneg item

theorem returning_nonneg : 0 ≤ s.returning item :=
  Table.sum_nonneg fun id t found => (sound.tasks id t found).returning_nonneg item

theorem settling_nonneg : 0 ≤ s.settling item :=
  Table.sum_nonneg fun id t found => (sound.tasks id t found).settling_nonneg item

theorem buffered_nonneg : 0 ≤ s.buffered item := by
  refine List.sum_nonneg fun n hn => ?_
  obtain ⟨order, member, rfl⟩ := List.mem_map.mp hn
  exact Order.stockOf_nonneg (sound.buffer order member) item

theorem persisted_nonneg : 0 ≤ s.persisted item := sound.saved.nonneg item

theorem lost_nonneg : 0 ≤ s.lost item := sound.losses.nonneg item

/-- What a task answers for is out. So a counter that has room for what is out has room
for what one task puts back. -/
theorem owned_le_out {id : TaskId} {t : Task} (found : s.tasks.get? id = some t) :
    t.owned item ≤ s.out item := by
  have others : 0 ≤ (s.tasks.erase id).sum (Task.owned item) := by
    refine Table.sum_nonneg fun id' t' found' => ?_
    rw [Table.get?_erase] at found'
    split at found'
    · cases found'
    · exact (sound.tasks id' t' found').owned_nonneg item
  have buffered := sound.buffered_nonneg item
  have whole := s.sum_owned item
  rw [Table.sum_erase found] at others
  unfold out
  omega

end Sale.Sound

end FlashSale
