import FlashSale.Event
import FlashSale.Order.Row
import FlashSale.Database.Query

/-!
# The ledger in a database

The calls of the durable store, as dialogues with a database that keeps the orders
and the inventory in two tables. Each change is one statement with its guard in it,
or a transaction of two: an order is inserted first, and goes again if the guarded
update of the inventory then finds no row.

A stock below zero is refused before anything is sent.
-/

namespace FlashSale.Database.Ledger

/-- What a call brings back, and what it reports to the log. -/
structure Report (α : Type) where
  result : Except StoreError α
  events : List Event := []

def unavailable (e : Error) : StoreError := .unavailable e.message

def number (w : Int32) : Expr := .constant (.number w.toInt)

def stockField : Expr := .field .inventory .stock

/-- A change of the inventory counts as one in its version. -/
def nextVersion : Assignment :=
  (.version, .plus (.field .inventory .version) (.constant (.number 1)))

def touchedAt (now : Timestamp) : Assignment := (.updatedAt, .constant (.moment now))

def ofItem (item : String) : Expr :=
  .equals (.field .inventory .itemId) (.constant (.text item))

def inventoryFields (r : InventoryRow) : List (Column × Value) :=
  [(.itemId, .text r.itemId), (.stock, .number r.stock.toInt), (.version, .number r.version.toInt),
    (.createdAt, .moment r.createdAt), (.updatedAt, .moment r.updatedAt)]

def orderFields (r : OrderRow) : List (Column × Value) :=
  [(.id, .uuid r.id), (.itemId, .text r.itemId), (.userId, .text r.userId),
    (.quantity, .number r.quantity.toInt), (.status, .text r.status),
    (.createdAt, .moment r.createdAt), (.updatedAt, .moment r.updatedAt)]

def seedStatement (now : Timestamp) (item : String) (stock : Int32) : Statement :=
  .insert .inventory (inventoryFields (Inventory.fresh item stock now).toRow) <| some
    { key := .itemId
      changes := [(.stock, .excluded .stock), nextVersion, touchedAt now] }

def insertOrder (o : Order) : Statement := .insert .orders (orderFields o.toRow) none

/-- Takes the quantity of an order out of an inventory that covers it. -/
def takeStock (now : Timestamp) (o : Order) : Statement :=
  .update .inventory
    [(.stock, .minus stockField (number o.quantity)), nextVersion, touchedAt now]
    (.both (ofItem o.itemId) (.atLeast stockField (number o.quantity)))

/-- Writes a quantity over a given version. -/
def overwrite (now : Timestamp) (item : String) (quantity version : Int32) : Statement :=
  .update .inventory [(.stock, number quantity), nextVersion, touchedAt now]
    (.both (ofItem item) (.equals (.field .inventory .version) (number version)))

def selectInventory (item : String) : Statement :=
  .select .inventory [.itemId, .stock, .version, .createdAt, .updatedAt] (.first (ofItem item))

def selectOrder (id : Uuid) : Statement :=
  .select .orders [.id, .itemId, .userId, .quantity, .status, .createdAt, .updatedAt]
    (.first (.equals (.field .orders .id) (.constant (.uuid id))))

def countStatement (item : String) : Statement :=
  .count .orders (.equals (.field .orders .itemId) (.constant (.text item)))

def inventoryOfRow : List Value → Except Error Inventory
  | [itemId, stock, version, createdAt, updatedAt] => do
    let row : InventoryRow :=
      { itemId := ← itemId.text?
        stock := ← stock.word32?
        version := ← version.word32?
        createdAt := ← createdAt.moment?
        updatedAt := ← updatedAt.moment? }
    return row.toInventory
  | _ => .error .wrongKind

def orderRowOfRow : List Value → Except Error OrderRow
  | [id, itemId, userId, quantity, status, createdAt, updatedAt] => do
    return {
      id := ← id.uuid?
      itemId := ← itemId.text?
      userId := ← userId.text?
      quantity := ← quantity.word32?
      status := ← status.text?
      createdAt := ← createdAt.moment?
      updatedAt := ← updatedAt.moment? }
  | _ => .error .wrongKind

def orderOfRow (row : List Value) : Except StoreError Order := do
  (← (orderRowOfRow row).mapError unavailable).toOrder

def countOfRow : List Value → Except Error Int64
  | [n] => n.word64?
  | _ => .error .wrongKind

/-- The first row, if there is one. -/
def readFirst {α : Type} (read : List Value → Except StoreError α) :
    List (List Value) → Except StoreError (Option α)
  | [] => .ok none
  | row :: _ => (read row).map some

/-- Sets the stock of an item, whether or not it has a row. -/
def seed (now : Timestamp) (item : String) (stock : Int32) : Query (Report Unit) := do
  if stock < 0 then
    return { result := .error (.invalidStock stock) }
  else
    match ← execute (seedStatement now item stock) with
    | .ok _ => return { result := .ok (), events := [.inventorySeeded item stock] }
    | .error e => return { result := .error (unavailable e) }

/-- The two statements of a commit. An update that touches no row is a conflict. -/
def commitBody (now : Timestamp) (o : Order) : Query (Except StoreError Unit) := do
  match ← execute (insertOrder o) with
  | .error e => return .error (unavailable e)
  | .ok _ =>
    match ← execute (takeStock now o) with
    | .error e => return .error (unavailable e)
    | .ok 0 => return .error .optimisticLockConflict
    | .ok _ => return .ok ()

/-- Stores an order and takes its quantity out of the inventory. -/
def commit (now : Timestamp) (o : Order) : Query (Report Unit) := do
  match ← transaction unavailable .discard (commitBody now o) with
  | .ok () => return { result := .ok (), events := [.orderCommitted o.id o.itemId] }
  | .error e => return { result := .error e }

def inventory? (item : String) : Query (Report (Option Inventory)) := do
  let rows ← query (selectInventory item)
  return { result := do
    readFirst (fun row => (inventoryOfRow row).mapError unavailable) (← rows.mapError unavailable) }

/-- Writes a quantity computed from the given version of the row. -/
def update (now : Timestamp) (item : String) (quantity version : Int32) : Query (Report Unit) := do
  if quantity < 0 then
    return { result := .error (.invalidStock quantity) }
  else
    match ← execute (overwrite now item quantity version) with
    | .error e => return { result := .error (unavailable e) }
    | .ok 0 => return { result := .error .optimisticLockConflict }
    | .ok _ => return { result := .ok () }

def findOrder? (id : Uuid) : Query (Report (Option Order)) := do
  let rows ← query (selectOrder id)
  return { result := do readFirst orderOfRow (← rows.mapError unavailable) }

def countOrders (item : String) : Query (Report Int64) := do
  let rows ← query (countStatement item)
  return { result := do
    match ← readFirst (fun row => (countOfRow row).mapError unavailable)
        (← rows.mapError unavailable) with
    | some n => .ok n
    | none => .error (unavailable .noRow) }

end FlashSale.Database.Ledger
