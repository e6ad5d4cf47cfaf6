import FlashSale.Proofs.Ledger.Commit
import Mathlib.Logic.Function.Basic

/-!
# First come, first served

Which orders of a list a ledger will take can be told without committing any of them: each in
turn is accepted if its identifier is new and what is left of its item covers it. Commits go
by this rule, and what one leaves behind is what the rule goes on with.
-/

namespace FlashSale

/-- The orders that are accepted first come, first served. An order takes its quantity out of the
stock of its item, and its identifier is known from then on. -/
def allocate (stock : String → Int) (known : Uuid → Bool) : List Order → List Order
  | [] => []
  | order :: rest =>
    if known order.id = false ∧ order.quantity.toInt ≤ stock order.itemId then
      let left := stock order.itemId - order.quantity.toInt
      order :: allocate (Function.update stock order.itemId left)
        (Function.update known order.id true) rest
    else allocate stock known rest

namespace Ledger

/-- What the ledger has of an item, nothing without a row. -/
def inStock (l : Ledger) (item : String) : Int :=
  ((l.inventory.get? item).map fun row => row.quantity.toInt).getD 0

/-- The ledger can be reached, the identifier is new, and the stock covers the order. -/
def Accepts (l : Ledger) (order : Order) : Prop :=
  l.unavailable = false ∧ l.orders.contains order.id = false ∧
    order.quantity.toInt ≤ l.inStock order.itemId

instance (l : Ledger) (order : Order) : Decidable (l.Accepts order) :=
  inferInstanceAs (Decidable (_ ∧ _ ∧ _))

/-- The orders of a list that the ledger accepts, first come, first served. -/
def accepted (l : Ledger) (orders : List Order) : List Order :=
  if l.unavailable then [] else allocate l.inStock l.orders.contains orders

variable {l l' : Ledger} {now : Timestamp} {order : Order}

theorem findOrder?_eq_none_iff {id : Uuid} :
    l.findOrder? id = none ↔ l.orders.contains id = false := by
  rw [findOrder?, Table.contains, Option.isSome_eq_false_iff, Option.isNone_iff_eq_none]

/-- An order that is accepted is committed, unless the version of its row is at its
limit. The other limits cannot be met. -/
theorem commit_of_accepts (positive : 0 < order.quantity.toInt) (accepts : l.Accepts order)
    (below : ∀ row, l.inventory.get? order.itemId = some row → row.version.toInt < 2147483647) :
    ∃ l', l.commit now order = (.answer (.ok ()), l') := by
  obtain ⟨available, new, covered⟩ := accepts
  rw [inStock] at covered
  cases found : l.inventory.get? order.itemId with
  | none =>
      rw [found, Option.map_none, Option.getD_none] at covered
      omega
  | some row =>
      rw [found, Option.map_some, Option.getD_some] at covered
      exact commit_ok available (findOrder?_eq_none_iff.mpr new) found positive covered
        (below row found)

theorem commit_of_not_accepts (refused : ¬ l.Accepts order) :
    ∃ e, l.commit now order = (.answer (.error e), l) := by
  cases available : l.unavailable with
  | true => exact ⟨_, by rw [commit, if_pos available]; rfl⟩
  | false =>
      obtain error | ⟨row, found, absent, covered, -⟩ := l.commit_cases now order
      · exact error
      · have stock : l.inStock order.itemId = row.quantity.toInt := by
          rw [inStock, found, Option.map_some, Option.getD_some]
        refine absurd ⟨available, findOrder?_eq_none_iff.mp absent, ?_⟩ refused
        rw [stock]
        exact covered

section Committed

variable (committed : l.commit now order = (.answer (.ok ()), l'))

include committed

/-- A commit takes the quantity of the order out of the stock of its item, as `allocate`
does. -/
theorem commit_inStock :
    l'.inStock =
      Function.update l.inStock order.itemId (l.inStock order.itemId - order.quantity.toInt) := by
  obtain ⟨-, row, left, version, found, -, rest, rfl⟩ := commit_eq_ok committed
  funext item
  rw [Function.update_apply]
  split
  · rename_i same
    subst same
    simp [inStock, found, rest]
  · rename_i other
    simp [inStock, Table.get?_insert, other]

theorem commit_contains : l'.orders.contains = Function.update l.orders.contains order.id true := by
  obtain ⟨-, row, left, version, -, -, -, rfl⟩ := commit_eq_ok committed
  funext id
  rw [Function.update_apply, Table.contains, Table.get?_insert]
  split <;> rfl

theorem commit_findOrder? (id : Uuid) :
    l'.findOrder? id = if id = order.id then some order else l.findOrder? id := by
  obtain ⟨-, row, left, version, -, -, -, rfl⟩ := commit_eq_ok committed
  exact Table.get?_insert ..

/-- A commit raises the version of one row by one and makes no row. -/
theorem commit_version_le {item : String} {row' : Inventory}
    (found : l'.inventory.get? item = some row') :
    ∃ row, l.inventory.get? item = some row ∧ row'.version.toInt ≤ row.version.toInt + 1 := by
  obtain ⟨e, eq⟩ | ⟨row, before, -, -, ⟨-, eq⟩ | ⟨left, -, ⟨_, -, eq⟩ | ⟨_, write, eq⟩⟩⟩ :=
    l.commit_cases now order <;> cases eq.symm.trans committed
  obtain ⟨-, version, risen, rfl⟩ := writeQuantity_eq_answer write
  rw [Table.get?_insert] at found
  split at found
  · rename_i same
    cases found
    exact ⟨row, same ▸ before, Int.le_of_eq risen⟩
  · exact ⟨row', found, by omega⟩

/-- A commit leaves less stock and more identifiers that are known, so that an order which was
refused before it is refused after it. -/
theorem accepts_of_commit (positive : 0 < order.quantity.toInt) {other : Order}
    (accepts : l'.Accepts other) : l.Accepts other := by
  obtain ⟨available, new, covered⟩ := accepts
  rw [commit_inStock committed, Function.update_apply] at covered
  rw [commit_contains committed, Function.update_apply] at new
  refine ⟨(commit_settings committed).unavailable.symm.trans available, ?_, ?_⟩
  · split at new
    · cases new
    · exact new
  · split at covered
    · rename_i same
      rw [same]
      omega
    · exact covered

/-- After a commit the rest of the orders meets what the commit left behind. So the list
can be worked off order by order. -/
theorem accepted_of_accepts (accepts : l.Accepts order) (rest : List Order) :
    l.accepted (order :: rest) = order :: l'.accepted rest := by
  obtain ⟨available, new, covered⟩ := accepts
  have still : l'.unavailable = false := (commit_settings committed).unavailable.trans available
  simp only [accepted, available, still, Bool.false_eq_true, if_false]
  rw [allocate, if_pos ⟨new, covered⟩, commit_inStock committed, commit_contains committed]

end Committed

theorem accepted_of_not_accepts (refused : ¬ l.Accepts order) (rest : List Order) :
    l.accepted (order :: rest) = l.accepted rest := by
  cases available : l.unavailable with
  | true => simp only [accepted, available, if_true]
  | false =>
      have out : ¬ (l.orders.contains order.id = false ∧
          order.quantity.toInt ≤ l.inStock order.itemId) := fun fits => refused ⟨available, fits⟩
      simp only [accepted, available, Bool.false_eq_true, if_false, allocate, if_neg out]

end Ledger

end FlashSale
