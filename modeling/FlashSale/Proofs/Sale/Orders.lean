import FlashSale.Proofs.Sale.Pipeline

/-!
# The way of an order

An order comes into the queue when its purchase is accepted; a worker takes it out,
begins to commit it and reports what came of it. Only the report stays in the log, so
the way is followed by counting: how often an identifier was accepted, stands in the
buffer, is with a worker, was handed to one, was attempted and was reported. Here is
what is counted, and what does not count.
-/

namespace FlashSale

open Sale (Turn)

namespace Answer

/-- The purchase that an answer tells of as accepted. -/
def accepted? : Answer → Option (PurchaseRequest × Uuid)
  | purchased r _ (.ok id) => some (r, id)
  | _ => none

end Answer

namespace Event

/-- The order that a worker reports as put back. -/
def restoredId? : Event → Option Uuid
  | stockRestored order _ => some order.id
  | _ => none

/-- The order that a worker could neither persist nor put back. -/
def divergedId? : Event → Option Uuid
  | storesDiverged failure => some failure.orderId
  | _ => none

/-- The order whose settlement is reported, whatever came of it. -/
def settledId? : Event → Option Uuid
  | orderSaved id => some id
  | stockRestored order _ => some order.id
  | storesDiverged failure => some failure.orderId
  | _ => none

/-- The orders that are reported as persisted. -/
def savedIds (log : List Event) : List Uuid := log.filterMap savedId?

/-- The orders that are reported as put back. -/
def restoredIds (log : List Event) : List Uuid := log.filterMap restoredId?

/-- The orders for which the stores are reported to diverge. -/
def divergedIds (log : List Event) : List Uuid := log.filterMap divergedId?

/-- The orders whose settlement is reported, in the order of the reports. -/
def settledIds (log : List Event) : List Uuid := log.filterMap settledId?

end Event

namespace Task

/-- One for the purchase that would make an order of this identifier. -/
def buys (id : Uuid) : Task → Int
  | purchase _ _ uuid _ _ => if uuid = id then 1 else 0
  | _ => 0

/-- The order that is being settled. -/
def order? : Task → Option Order
  | settle _ order _ _ _ => some order
  | _ => none

/-- One for a worker with this order. Summed over the tasks, this counts the workers
that have it. -/
def settles (id : Uuid) : Task → Int
  | settle _ order _ _ _ => if order.id = id then 1 else 0
  | _ => 0

/-- One for a worker that began to commit this order. It is counted with the attempts
that are not yet reported. -/
def commits (id : Uuid) : Task → Int
  | settle _ _ .opening _ _ => 0
  | settle _ order _ _ _ => if order.id = id then 1 else 0
  | _ => 0

/-- The task is a call of the ledger that somebody outside makes. -/
def isLedgerCall : Task → Bool
  | ledger .. => true
  | _ => false

/-- The task brings an order into the ledger without a purchase. -/
def isDirectCommit : Task → Bool
  | ledger (.commit _) _ => true
  | _ => false

end Task

namespace Sale

/-- The worker and the order of a note that an order was handed out. -/
def Note.handed? : Note → Option (TaskId × Order)
  | .handed worker order => some (worker, order)
  | _ => none

/-- The worker and the order of a note that a commit was begun. -/
def Note.attempted? : Note → Option (TaskId × Order)
  | .attempted worker order => some (worker, order)
  | _ => none

/-- The orders that were handed out, each with the worker that got it. -/
def handings (notes : List Note) : List (TaskId × Order) := notes.filterMap Note.handed?

/-- The orders whose commit was begun, each with the worker that began it. -/
def attempts (notes : List Note) : List (TaskId × Order) := notes.filterMap Note.attempted?

/-- The identifiers of orders that workers were handed or attempted. -/
def idsOf (work : List (TaskId × Order)) : List Uuid := work.map fun e => e.2.id

namespace Turn

def accepted : Turn → List (PurchaseRequest × Uuid)
  | .finish a => a.accepted?.toList
  | _ => []

end Turn

/-- The purchases that were accepted. -/
def accepted (s : Sale) : List (PurchaseRequest × Uuid) := s.answers.filterMap fun e => e.2.accepted?

/-- The order is that of an accepted purchase. Its item, quantity and buyer are those of
the request. -/
def Accepts (s : Sale) (order : Order) : Prop :=
  ∃ purchase ∈ s.accepted, order.Fills purchase.1 purchase.2

/-- The tally counts the reports of the log. There is one number for each of the ways in
which a settlement can end. -/
structure Tallied (s : Sale) : Prop where
  persisted : s.tally.persisted = (Event.savedIds s.log).length
  compensated : s.tally.compensated = (Event.restoredIds s.log).length
  compensationFailures : s.tally.compensationFailures = (Event.divergedIds s.log).length

/-- The ledger holds the orders that are reported as persisted, and no others. This
needs that nobody commits an order but the workers. -/
def Recorded (s : Sale) : Prop :=
  ∀ id, (s.ledger.findOrder? id).isSome = true ↔ id ∈ Event.savedIds s.log

variable {s s' : Sale} {me : TaskId} {t : Task}

theorem settled_none {e : Event} (unsettled : e.settledId? = none) :
    e.savedId? = none ∧ e.restoredId? = none ∧ e.divergedId? = none := by
  cases e with
  | orderSaved => cases unsettled
  | stockRestored => cases unsettled
  | storesDiverged => cases unsettled
  | _ => exact ⟨rfl, rfl, rfl⟩

theorem filterMap_append_none {α β : Type} {f : α → Option β} {l extra : List α}
    (none : ∀ e ∈ extra, f e = none) : (l ++ extra).filterMap f = l.filterMap f := by
  rw [List.filterMap_append, List.filterMap_eq_nil_iff.mpr none, List.append_nil]

/-- What is no report of a settlement, and leaves the orders of the ledger alone, leaves
the record alone. -/
theorem Recorded.quiet (recorded : s.Recorded) {events : List Event} (log : s'.log = s.log ++ events)
    (unsaved : ∀ e ∈ events, e.savedId? = none) (orders : s'.ledger.orders = s.ledger.orders) :
    s'.Recorded := by
  intro id
  rw [Ledger.findOrder?, orders, log, Event.savedIds, filterMap_append_none unsaved]
  exact recorded id

theorem Tallied.quiet (tallied : s.Tallied) {events : List Event} (log : s'.log = s.log ++ events)
    (unsettled : ∀ e ∈ events, e.settledId? = none) (tally : s'.tally = s.tally) : s'.Tallied := by
  constructor
  · rw [tally, log, Event.savedIds,
      filterMap_append_none fun e he => (settled_none (unsettled e he)).1]
    exact tallied.persisted
  · rw [tally, log, Event.restoredIds,
      filterMap_append_none fun e he => (settled_none (unsettled e he)).2.1]
    exact tallied.compensated
  · rw [tally, log, Event.divergedIds,
      filterMap_append_none fun e he => (settled_none (unsettled e he)).2.2]
    exact tallied.compensationFailures

theorem Tallied.record (tallied : s.Tallied) {order : Order} {outcome : Outcome}
    (log : s'.log = s.log ++ [outcomeEvent order outcome])
    (tally : s'.tally = s.tally.record outcome) : s'.Tallied := by
  obtain ⟨persisted, compensated, failures⟩ := tallied
  unfold Event.savedIds at persisted
  unfold Event.restoredIds at compensated
  unfold Event.divergedIds at failures
  cases outcome <;> constructor <;>
    simp [tally, log, Tally.record, outcomeEvent, Event.savedIds, Event.restoredIds,
      Event.divergedIds, Event.savedId?, Event.restoredId?, Event.divergedId?, persisted,
      compensated, failures]

theorem Recorded.commit (recorded : s.Recorded) {order : Order} {ledger : Ledger}
    (reply : s.ledger.commit s.clock order = (.answer (.ok ()), ledger)) (stored : s'.ledger = ledger)
    (log : s'.log = s.log ++ [.orderSaved order.id]) : s'.Recorded := by
  obtain ⟨-, row, left, version, -, -, -, rfl⟩ := Ledger.commit_eq_ok reply
  intro id
  have known := recorded id
  rw [stored, log, Ledger.findOrder?, Table.get?_insert]
  unfold Event.savedIds at known ⊢
  rw [List.filterMap_append, List.mem_append, ← known]
  by_cases same : id = order.id
  · simp [same, Event.savedId?]
  · simp [same, Event.savedId?, Ledger.findOrder?]

theorem endEvents_unsettled {r : PurchaseRequest} {web : Bool} {result : Except PurchaseError Uuid} :
    ∀ e ∈ Purchase.endEvents r web result, e.settledId? = none := by
  intro e he
  unfold Purchase.endEvents Purchase.failureEvents at he
  split at he
  · split at he
    · cases he
    · split at he
      · rw [List.mem_singleton.mp he]
        rfl
      · cases he
  · cases he

theorem joinEvents_unsettled {crashed : Nat} {tally : Tally} :
    ∀ e ∈ List.replicate crashed Event.workerCrashed ++ [.workersStopped tally],
      e.settledId? = none := by
  intro e he
  obtain crashed | stopped := List.mem_append.mp he
  · rw [(List.mem_replicate.mp crashed).2]
    rfl
  · rw [List.mem_singleton.mp stopped]
    rfl

/-- A settlement is reported as persisted, put back or diverged. The three lists
together are all the reports, up to their order. -/
theorem settledIds_perm (log : List Event) : (Event.settledIds log).Perm
    (Event.savedIds log ++ Event.restoredIds log ++ Event.divergedIds log) := by
  unfold Event.settledIds Event.savedIds Event.restoredIds Event.divergedIds
  refine List.perm_iff_count.mpr fun id => ?_
  rw [List.count_append, List.count_append]
  induction log with
  | nil => rfl
  | cons e rest ih =>
      cases e with
      | orderSaved saved =>
          simp only [List.filterMap_cons, Event.settledId?, Event.savedId?, Event.restoredId?,
            Event.divergedId?, List.count_cons]
          omega
      | stockRestored order commit =>
          simp only [List.filterMap_cons, Event.settledId?, Event.savedId?, Event.restoredId?,
            Event.divergedId?, List.count_cons]
          omega
      | storesDiverged failure =>
          simp only [List.filterMap_cons, Event.settledId?, Event.savedId?, Event.restoredId?,
            Event.divergedId?, List.count_cons]
          omega
      | _ => exact ih

theorem buys_nonneg (t : Task) (id : Uuid) : 0 ≤ t.buys id := by
  cases t with
  | purchase =>
      simp only [Task.buys]
      split <;> decide
  | _ => exact Int.le_refl 0

theorem order?_eq_none (none : t.order? = none) (id : Uuid) : t.settles id = 0 ∧ t.commits id = 0 := by
  cases t with
  | settle => cases none
  | _ => exact ⟨rfl, rfl⟩

/-- Of a task that gets no order nothing is noted of one. So only workers and their
orders matter to the notes. -/
theorem noteOf_idle {t' : Task} (none : t'.order? = none) (time : Nat) :
    handings (noteOf time me t t') = [] ∧ attempts (noteOf time me t t') = [] := by
  unfold noteOf
  split
  · cases none
  · cases none
  · exact ⟨rfl, rfl⟩
  · exact ⟨rfl, rfl⟩
  · exact ⟨rfl, rfl⟩

theorem settles_nonneg (t : Task) (id : Uuid) : 0 ≤ t.settles id := by
  cases t with
  | settle =>
      simp only [Task.settles]
      split <;> decide
  | _ => exact Int.le_refl 0

theorem handings_append (work more : List Note) :
    handings (work ++ more) = handings work ++ handings more := List.filterMap_append

theorem attempts_append (work more : List Note) :
    attempts (work ++ more) = attempts work ++ attempts more := List.filterMap_append

/-- An order that was accepted stays accepted as more purchases are answered. -/
theorem Accepts.mono {order : Order} (accepts : s.Accepts order)
    (kept : ∀ purchase ∈ s.accepted, purchase ∈ s'.accepted) : s'.Accepts order := by
  obtain ⟨purchase, member, fills⟩ := accepts
  exact ⟨purchase, kept purchase member, fills⟩

end Sale

end FlashSale
