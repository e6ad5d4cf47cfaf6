import FlashSale.Order.Basic
import FlashSale.Reply
import FlashSale.Table
import FlashSale.Word

/-!
# The ledger

The durable store held in memory: the orders that were committed and the
inventory of each item. Committing an order takes its quantity out of the
inventory in the same step, so that the two never disagree.

Every change of an inventory row raises its version by one, and an update goes
through only against the version it was computed from. The quantity is written
before the version; when the version has reached its limit the quantity alone is
written.
-/

namespace FlashSale

structure Ledger where
  orders : Table Uuid Order := ∅
  inventory : Table String Inventory := ∅
  /-- Milliseconds for which a commit waits before it looks at anything. -/
  commitDelay : Nat := 0
  unavailable : Bool := false

namespace Ledger

def findOrder? (l : Ledger) (id : Uuid) : Option Order := l.orders.get? id

def countOrders (l : Ledger) (item : String) : Nat :=
  (l.orders.entries.filter fun e => e.2.itemId = item).length

/-- Writes a quantity into the row of an item and counts the change in its version. -/
def writeQuantity (l : Ledger) (item : String) (row : Inventory) (quantity : Int32)
    (now : Timestamp) : Reply Unit × Ledger :=
  match word32? (row.version.toInt + 1) with
  | none => (.overflow, { l with inventory := l.inventory.insert item { row with quantity } })
  | some version =>
    let row := { row with quantity, version, updatedAt := now }
    (.ok (), { l with inventory := l.inventory.insert item row })

/-- Sets the stock of an item, whether or not it has a row. -/
def seed (l : Ledger) (now : Timestamp) (item : String) (stock : Int32) : Reply Unit × Ledger :=
  if stock < 0 then (.error (.invalidStock stock), l)
  else
    match l.inventory.get? item with
    | some row => l.writeQuantity item row stock now
    | none => (.ok (), { l with inventory := l.inventory.insert item (.fresh item stock now) })

/-- Stores an order and takes its quantity out of the inventory. -/
def commit (l : Ledger) (now : Timestamp) (order : Order) : Reply Unit × Ledger :=
  if l.unavailable then (.fault .createOrder, l)
  else if l.orders.contains order.id then (.error (.duplicateOrder order.id), l)
  else
    match l.inventory.get? order.itemId with
    | none => (.error .optimisticLockConflict, l)
    | some row =>
      if row.quantity < order.quantity then (.error .optimisticLockConflict, l)
      else
        match word32? (row.quantity.toInt - order.quantity.toInt) with
        | none => (.overflow, l)
        | some left =>
          match l.writeQuantity order.itemId row left now with
          | (.overflow, l) => (.overflow, l)
          | (.answer reply, l) =>
            (.answer reply, { l with orders := l.orders.insert order.id order })

def inventory? (l : Ledger) (item : String) : Reply (Option Inventory) :=
  if l.unavailable then .fault .getInventory else .ok (l.inventory.get? item)

/-- Writes a quantity computed from the given version of the row. -/
def update (l : Ledger) (now : Timestamp) (item : String) (quantity version : Int32) :
    Reply Unit × Ledger :=
  if quantity < 0 then (.error (.invalidStock quantity), l)
  else if l.unavailable then (.fault .updateInventory, l)
  else
    match l.inventory.get? item with
    | none => (.error .optimisticLockConflict, l)
    | some row =>
      if row.version = version then l.writeQuantity item row quantity now
      else (.error .optimisticLockConflict, l)

end Ledger

end FlashSale
