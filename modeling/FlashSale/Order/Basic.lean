import FlashSale.Error
import FlashSale.Order.Status
import FlashSale.Timestamp.Basic

/-!
# Orders and inventory

An order is an admitted purchase; its identifier and quantity never change. The
inventory of an item is what the durable store holds of it, with a version that
counts the changes made to it.
-/

namespace FlashSale

structure Order where
  id : Uuid
  userId : String
  itemId : String
  quantity : Int32
  status : OrderStatus
  createdAt : Timestamp
  updatedAt : Timestamp
deriving DecidableEq, Repr

namespace Order

/-- A pending order, created at the given moment. -/
def pending (id : Uuid) (userId itemId : String) (quantity : Int32) (now : Timestamp) : Order :=
  { id, userId, itemId, quantity, status := .pending, createdAt := now, updatedAt := now }

/-- A pending order for a positive quantity. -/
def place (id : Uuid) (userId itemId : String) (quantity : Int32) (now : Timestamp) :
    Except PurchaseError Order :=
  if quantity ≤ 0 then .error (.invalidQuantity quantity)
  else .ok (pending id userId itemId quantity now)

end Order

structure Inventory where
  itemId : String
  quantity : Int32
  version : Int32
  createdAt : Timestamp
  updatedAt : Timestamp
deriving DecidableEq, Repr

/-- The inventory of an item seen for the first time. -/
def Inventory.fresh (itemId : String) (quantity : Int32) (now : Timestamp) : Inventory :=
  { itemId, quantity, version := 0, createdAt := now, updatedAt := now }

end FlashSale
