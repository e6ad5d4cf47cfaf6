import FlashSale.Proofs.Database.Session
import FlashSale.Proofs.Ledger.Replies

/-!
# Calls of the durable store

The calls that the ledger in memory and the ledger in a database have in common, and what
they bring back. Replies are compared without the reason in the text of an error and without
the moments at which rows were written.

A call is legal if its order is one that a purchase places, and if no text in it has the
character that no text in a database may have; its statements then have none either.
-/

namespace FlashSale

/-- A call of the durable store. It is the same whether the store is in memory or in a
database. -/
inductive LedgerRequest where
  | seed (item : String) (stock : Int32)
  | commit (order : Order)
  | inventory (item : String)
  | update (item : String) (quantity version : Int32)
  | findOrder (id : Uuid)
  | countOrders (item : String)

/-- What a call of the durable store brings back. Each call has one of these kinds of
result. -/
inductive LedgerReply where
  | unit (result : Except StoreError Unit)
  | inventory (result : Except StoreError (Option Inventory))
  | order (result : Except StoreError (Option Order))
  | count (result : Except StoreError Int)

/-- A call of the ledger in memory. It has no reply if a number leaves its range. -/
def Ledger.handle (l : Ledger) (now : Timestamp) : LedgerRequest → Option LedgerReply × Ledger
  | .seed item stock =>
    let (reply, l) := l.seed now item stock
    (reply.answer?.map .unit, l)
  | .commit order =>
    let (reply, l) := l.commit now order
    (reply.answer?.map .unit, l)
  | .inventory item => ((l.inventory? item).answer?.map .inventory, l)
  | .update item quantity version =>
    let (reply, l) := l.update now item quantity version
    (reply.answer?.map .unit, l)
  | .findOrder id => (some (.order (.ok (l.findOrder? id))), l)
  | .countOrders item => (some (.count (.ok (l.countOrders item))), l)

/-- A call of the ledger in a database, as a dialogue. What it logs is left out. -/
def Database.Ledger.handle (now : Timestamp) : LedgerRequest → Query LedgerReply
  | .seed item stock => return .unit (← seed now item stock).result
  | .commit order => return .unit (← commit now order).result
  | .inventory item => return .inventory (← inventory? item).result
  | .update item quantity version => return .unit (← update now item quantity version).result
  | .findOrder id => return .order (← findOrder? id).result
  | .countOrders item => return .count ((← countOrders item).result.map Int64.toInt)

/-- The order without its dates. -/
def Order.undated (o : Order) : Order :=
  { o with createdAt := .ofMillis 0, updatedAt := .ofMillis 0 }

/-- The row of an inventory without its dates. -/
def Inventory.undated (i : Inventory) : Inventory :=
  { i with createdAt := .ofMillis 0, updatedAt := .ofMillis 0 }

/-- The error without its reason. -/
def StoreError.bare : StoreError → StoreError
  | .unavailable _ => .unavailable ""
  | e => e

/-- The reply without dates and reasons. The two stores have clocks and wordings of
their own. -/
def LedgerReply.bare : LedgerReply → LedgerReply
  | .unit result => .unit (result.mapError StoreError.bare)
  | .inventory result =>
    .inventory ((result.mapError StoreError.bare).map (·.map Inventory.undated))
  | .order result => .order ((result.mapError StoreError.bare).map (·.map Order.undated))
  | .count result => .count (result.mapError StoreError.bare)

/-- Rows that are the same but for dates have the same item, quantity and version. -/
theorem Inventory.of_undated_eq {i j : Inventory} (same : i.undated = j.undated) :
    i.itemId = j.itemId ∧ i.quantity = j.quantity ∧ i.version = j.version := by
  simpa [undated] using same

/-- The order is as a purchase places it. In particular it is for a positive quantity.
-/
def Order.Placed (o : Order) : Prop :=
  Order.place o.id o.userId o.itemId o.quantity o.createdAt = .ok o

theorem Order.Placed.positive {o : Order} (placed : o.Placed) : 0 < o.quantity.toInt := by
  unfold Placed place at placed
  split at placed
  · cases placed
  · rename_i positive
    rw [Int32.le_iff_toInt_le] at positive
    exact Int.lt_of_not_ge positive

/-- The text does not have the character that no text in a database may have. -/
def NoZero (text : String) : Prop := '\x00' ∉ text.toList

instance (text : String) : Decidable (NoZero text) := inferInstanceAs (Decidable (¬ _))

/-- No text of the call has the character that no text in a database may have, and an
order is as a purchase places it. -/
def LedgerRequest.Legal : LedgerRequest → Prop
  | .seed item _ => NoZero item
  | .commit order => order.Placed ∧ NoZero order.userId ∧ NoZero order.itemId
  | .inventory item => NoZero item
  | .update item _ _ => NoZero item
  | .findOrder _ => True
  | .countOrders item => NoZero item

namespace Database.Ledger

variable {keep : Timestamp → Timestamp} {here there : Timestamp} {item : String} {order : Order}
  {quantity stock version : Int32} {tables tables' : Tables}

theorem hasZero_text {text : String} (legal : NoZero text) : (Value.text text).hasZero = false :=
  decide_eq_false legal

theorem seedStatement_clean (legal : NoZero item) : (seedStatement there item stock).Clean := by
  have free := hasZero_text legal
  simp [Statement.Clean, Statement.parameters, seedStatement, Assignment.parameters, nextVersion,
    touchedAt, Expr.parameters, Expr.plus, inventoryFields, Inventory.toRow, Inventory.fresh, free]

/-- The texts of a statement are those of the call, and a constant is clean by itself.
-/
theorem insertOrder_clean (user : NoZero order.userId) (item : NoZero order.itemId) :
    (insertOrder order).Clean := by
  have status : NoZero order.status.name := by cases order.status <;> decide
  simp [Statement.Clean, Statement.parameters, insertOrder, orderFields, Order.toRow,
    hasZero_text user, hasZero_text item, hasZero_text status]

theorem takeStock_clean (legal : NoZero order.itemId) : (takeStock there order).Clean := by
  have free := hasZero_text legal
  simp [Statement.Clean, Statement.parameters, takeStock, Assignment.parameters, nextVersion,
    touchedAt, Expr.parameters, Expr.plus, Expr.minus, Expr.both, Expr.equals, Expr.atLeast, ofItem,
    stockField, number, free]

theorem overwrite_clean (legal : NoZero item) :
    (overwrite there item quantity version).Clean := by
  have free := hasZero_text legal
  simp [Statement.Clean, Statement.parameters, overwrite, Assignment.parameters, nextVersion,
    touchedAt, Expr.parameters, Expr.plus, Expr.both, Expr.equals, ofItem, number, free]

theorem selectInventory_clean (legal : NoZero item) : (selectInventory item).Clean := by
  have free := hasZero_text legal
  simp [Statement.Clean, Statement.parameters, selectInventory, Expr.parameters, Expr.equals,
    ofItem, free]

theorem selectOrder_clean (id : Uuid) : (selectOrder id).Clean := rfl

theorem countStatement_clean (legal : NoZero item) : (countStatement item).Clean := by
  have free := hasZero_text legal
  simp [Statement.Clean, Statement.parameters, countStatement, Expr.parameters, Expr.equals, free]

end Database.Ledger

end FlashSale
