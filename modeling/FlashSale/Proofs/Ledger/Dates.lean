import FlashSale.Proofs.Ledger.Allocation
import FlashSale.Proofs.Table

/-!
# A ledger without its dates

A commit dates the row that it writes and reads no date. So a ledger in which the moments of
the last changes are left out takes the same orders, and is left with the same quantities and
versions, at whatever moment the orders are committed.
-/

namespace FlashSale

/-- The row without the moment of its last change. That of its creation is kept, as no
commit writes it. -/
def Inventory.timeless (row : Inventory) : Inventory := { row with updatedAt := .ofMillis 0 }

namespace Ledger

variable (l : Ledger) (order : Order)

/-- The ledger without the moments at which its rows were changed last. -/
def timeless : Ledger := { l with inventory := l.inventory.mapValues Inventory.timeless }

@[simp] theorem timeless_get? (item : String) :
    l.timeless.inventory.get? item = (l.inventory.get? item).map Inventory.timeless :=
  l.inventory.get?_mapValues Inventory.timeless item

@[simp] theorem timeless_inStock : l.timeless.inStock = l.inStock := by
  funext item
  rw [inStock, inStock, timeless_get?, Option.map_map]
  rfl

@[simp] theorem timeless_accepts : l.timeless.Accepts order ↔ l.Accepts order := by
  rw [Accepts, Accepts, timeless_inStock]
  rfl

@[simp] theorem timeless_accepted (orders : List Order) :
    l.timeless.accepted orders = l.accepted orders := by
  rw [accepted, accepted, timeless_inStock]
  rfl

theorem timeless_writeQuantity (item : String) (row : Inventory) (quantity : Int32)
    (now : Timestamp) :
    l.timeless.writeQuantity item row.timeless quantity (.ofMillis 0) =
      ((l.writeQuantity item row quantity now).1,
        (l.writeQuantity item row quantity now).2.timeless) := by
  have version : row.timeless.version = row.version := rfl
  rw [writeQuantity, writeQuantity, version]
  split <;> simp only [Reply.ok, timeless, Table.mapValues_insert] <;> rfl

/-- At whatever moment an order is committed, the reply is that of the ledger without dates, and
what is left of the two is alike. -/
theorem timeless_commit (now : Timestamp) :
    l.timeless.commit (.ofMillis 0) order =
      ((l.commit now order).1, (l.commit now order).2.timeless) := by
  have written (row : Inventory) (left : Int32) :=
    l.timeless_writeQuantity order.itemId row left now
  unfold commit
  rw [timeless_get?]
  have switch : l.timeless.unavailable = l.unavailable := rfl
  have known : l.timeless.orders = l.orders := rfl
  rw [switch, known]
  split
  · rfl
  split
  · rfl
  cases l.inventory.get? order.itemId with
  | none => rfl
  | some row =>
      have held : row.timeless.quantity = row.quantity := rfl
      simp only [Option.map_some, held]
      split
      · rfl
      cases word32? (row.quantity.toInt - order.quantity.toInt) with
      | none => rfl
      | some left =>
          simp only [written]
          rcases l.writeQuantity order.itemId row left now with ⟨reply, l'⟩
          cases reply <;> rfl

end Ledger

end FlashSale
