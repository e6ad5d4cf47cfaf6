import FlashSale.Proofs.Ledger.Balance
import FlashSale.Proofs.Sale.Turn

/-!
# Where the stock of an item is

A unit of an item is counted by the reservation store, or it is out: a purchase holds
it, a task of its own is to put it back, the queue holds its order, or a worker is
settling its order. Otherwise it is spent: its order was persisted, or a critical
event reported it lost. What the workers persisted is read off the log, since the
ledger may hold orders that came to it by another way.

`Deed.stock` says that a step of a task moves units between these places and neither
loses nor makes one.
-/

namespace FlashSale

namespace Event

/-- The order that a worker reports as persisted. -/
def savedId? : Event → Option Uuid
  | orderSaved id => some id
  | _ => none

/-- The event neither reports a loss nor a persisted order. Such events are of no
account to the stock. -/
def IsNeutral (e : Event) : Prop := e.loss? = none ∧ e.savedId? = none

/-- The stock of an item that is reported as lost, all quantities added up. -/
def lostIn (item : String) (log : List Event) : Int :=
  ((log.filterMap loss?).map fun l => if l.1 = item then l.2.toInt else 0).sum

/-- The orders that are reported as persisted, as the ledger has them. Orders of the
ledger without a report are not among them. -/
def savedIn (l : Ledger) (log : List Event) : List Order :=
  (log.filterMap savedId?).filterMap l.findOrder?

end Event

namespace Task

/-- Stock that a purchase took and for which the queue has no order yet. -/
def held (item : String) : Task → Int
  | purchase _ _ _ (.admitting order) _ => order.stockOf item
  | purchase _ _ _ (.releasing order) _ => order.stockOf item
  | _ => 0

/-- Stock that is to be put back for a purchase that is gone. -/
def returning (item : String) : Task → Int
  | release item' quantity _ => if item' = item then quantity.toInt else 0
  | _ => 0

/-- Stock of an order that is being settled. -/
def settling (item : String) : Task → Int
  | settle _ order _ _ _ => order.stockOf item
  | _ => 0

/-- All the stock that a task answers for. -/
def owned (item : String) (t : Task) : Int := t.held item + t.returning item + t.settling item

end Task

namespace Sale

/-- Stock that the reservation store counts for the item. -/
def counter (s : Sale) (item : String) : Int := s.reservations.counter item

/-- Stock of the item that purchases hold. -/
def held (s : Sale) (item : String) : Int := s.tasks.sum (Task.held item)

/-- Stock of the item that tasks of their own are to put back. -/
def returning (s : Sale) (item : String) : Int := s.tasks.sum (Task.returning item)

/-- Stock of the item that workers are settling orders for. -/
def settling (s : Sale) (item : String) : Int := s.tasks.sum (Task.settling item)

/-- Stock of the item whose orders are in the buffer of the queue. -/
def buffered (s : Sale) (item : String) : Int := (s.queue.buffer.map (Order.stockOf item)).sum

/-- Stock of the item whose orders workers reported as persisted. -/
def persisted (s : Sale) (item : String) : Int :=
  ((Event.savedIn s.ledger s.log).map (Order.stockOf item)).sum

/-- Stock of the item that was reported as lost. -/
def lost (s : Sale) (item : String) : Int := Event.lostIn item s.log

/-- Stock that left the counter and may come back to it. What was persisted or lost will
not. -/
def out (s : Sale) (item : String) : Int :=
  s.held item + s.returning item + s.buffered item + s.settling item

/-- Stock wherever it is, but for what tasks answer for. A step of one task changes this
and what the task itself answers for. -/
def shelved (s : Sale) (item : String) : Int :=
  s.counter item + s.buffered item + s.persisted item + s.lost item

/-- No counter would leave its range if all the stock that is out came back. This is
what rules out an overflow when stock is put back. -/
def HasRoom (s : Sale) : Prop :=
  ∀ item, s.counter item + s.out item ≤ 9223372036854775807

theorem sum_owned (s : Sale) (item : String) :
    s.tasks.sum (Task.owned item) = s.held item + s.returning item + s.settling item := by
  unfold held returning settling Task.owned
  rw [Table.sum_add, Table.sum_add]

end Sale

namespace Event

variable {item : String} {l l' : Ledger} {log events : List Event}

theorem lostIn_append : lostIn item (log ++ events) = lostIn item log + lostIn item events := by
  simp [lostIn]

theorem savedIn_append : savedIn l (log ++ events) = savedIn l log ++ savedIn l events := by
  simp [savedIn]

theorem lostIn_neutral (neutral : ∀ e ∈ events, e.IsNeutral) : lostIn item events = 0 := by
  have none : events.filterMap loss? = [] :=
    List.filterMap_eq_nil_iff.mpr fun e he => (neutral e he).1
  simp [lostIn, none]

theorem savedIn_neutral (neutral : ∀ e ∈ events, e.IsNeutral) : savedIn l events = [] := by
  have none : events.filterMap savedId? = [] :=
    List.filterMap_eq_nil_iff.mpr fun e he => (neutral e he).2
  simp [savedIn, none]

theorem neutral_nil : ∀ e ∈ ([] : List Event), e.IsNeutral := fun _ he => nomatch he

theorem neutral_singleton {e : Event} (loss : e.loss? = none) (saved : e.savedId? = none) :
    ∀ e' ∈ [e], e'.IsNeutral := by
  intro e' he
  rw [List.mem_singleton.mp he]
  exact ⟨loss, saved⟩

/-- The ledger has every order that is reported as persisted, for a positive quantity.
So what was persisted of an item is not negative. -/
def SavedFor (l : Ledger) (log : List Event) : Prop :=
  ∀ id ∈ log.filterMap savedId?, ∃ order, l.findOrder? id = some order ∧ 0 < order.quantity.toInt

/-- Whatever is reported as lost is a positive quantity. -/
def LossesPositive (log : List Event) : Prop :=
  ∀ loss ∈ log.filterMap loss?, 0 < loss.2.toInt

theorem savedFor_append : SavedFor l (log ++ events) ↔ SavedFor l log ∧ SavedFor l events := by
  simp only [SavedFor, List.filterMap_append, List.forall_mem_append]

theorem lossesPositive_append :
    LossesPositive (log ++ events) ↔ LossesPositive log ∧ LossesPositive events := by
  simp only [LossesPositive, List.filterMap_append, List.forall_mem_append]

theorem SavedFor.nonneg (saved : SavedFor l log) (item : String) :
    0 ≤ ((savedIn l log).map (Order.stockOf item)).sum := by
  refine List.sum_nonneg fun n hn => ?_
  obtain ⟨order, member, rfl⟩ := List.mem_map.mp hn
  obtain ⟨id, reported, found⟩ := List.mem_filterMap.mp member
  obtain ⟨order', found', positive⟩ := saved id reported
  obtain rfl := Option.some.inj (found.symm.trans found')
  exact Order.stockOf_nonneg positive item

theorem LossesPositive.nonneg (losses : LossesPositive log) (item : String) :
    0 ≤ lostIn item log := by
  refine List.sum_nonneg fun n hn => ?_
  obtain ⟨loss, member, rfl⟩ := List.mem_map.mp hn
  have positive := losses loss member
  split <;> omega

theorem SavedFor.keeps (saved : SavedFor l log) (keeps : l.Keeps l') : SavedFor l' log := by
  intro id reported
  obtain ⟨order, found, positive⟩ := saved id reported
  exact ⟨order, keeps id order found, positive⟩

/-- A ledger that keeps its orders keeps those that were reported. What was persisted
before a step is then the same after it. -/
theorem savedIn_keeps (keeps : l.Keeps l') (saved : SavedFor l log) :
    savedIn l' log = savedIn l log := by
  unfold savedIn
  refine List.filterMap_congr fun id reported => ?_
  obtain ⟨order, found, -⟩ := saved id reported
  rw [found]
  exact keeps id order found

theorem failureEvents_neutral {r : PurchaseRequest} {web : Bool}
    {result : Except PurchaseError Uuid} :
    ∀ e ∈ Purchase.endEvents r web result, e.IsNeutral := by
  intro e he
  unfold Purchase.endEvents Purchase.failureEvents at he
  split at he
  · split at he
    · cases he
    · split at he
      · rw [List.mem_singleton.mp he]
        exact ⟨rfl, rfl⟩
      · cases he
  · cases he

end Event

end FlashSale
