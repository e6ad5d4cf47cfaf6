import FlashSale.Order.Basic

/-!
# Rows of the durable store

What the tables of orders and of inventory hold, one field for each column and in
the order of the columns. The status of an order is stored as its name, so a row
may hold one that is no status; everything else of an order fits a row and back.
-/

namespace FlashSale

structure OrderRow where
  id : Uuid
  itemId : String
  userId : String
  quantity : Int32
  status : String
  createdAt : Timestamp
  updatedAt : Timestamp
deriving DecidableEq, Repr

structure InventoryRow where
  itemId : String
  stock : Int32
  version : Int32
  createdAt : Timestamp
  updatedAt : Timestamp
deriving DecidableEq, Repr

def Order.toRow (o : Order) : OrderRow where
  id := o.id
  itemId := o.itemId
  userId := o.userId
  quantity := o.quantity
  status := o.status.name
  createdAt := o.createdAt
  updatedAt := o.updatedAt

/-- The order in a row. Only its status is looked at. -/
def OrderRow.toOrder (r : OrderRow) : Except StoreError Order :=
  match OrderStatus.ofName? r.status with
  | .ok status =>
    .ok
      { id := r.id
        userId := r.userId
        itemId := r.itemId
        quantity := r.quantity
        status
        createdAt := r.createdAt
        updatedAt := r.updatedAt }
  | .error unknown =>
    .error (.unavailable ("order " ++ r.id.toString ++ ": " ++ unknown.message))

def InventoryRow.toInventory (r : InventoryRow) : Inventory where
  itemId := r.itemId
  quantity := r.stock
  version := r.version
  createdAt := r.createdAt
  updatedAt := r.updatedAt

def Inventory.toRow (i : Inventory) : InventoryRow where
  itemId := i.itemId
  stock := i.quantity
  version := i.version
  createdAt := i.createdAt
  updatedAt := i.updatedAt

end FlashSale
