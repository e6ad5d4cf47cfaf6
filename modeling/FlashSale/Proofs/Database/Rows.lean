import FlashSale.Proofs.Database.Server
import FlashSale.Database.Ledger
import Mathlib.Data.List.Nodup

/-!
# Rows of orders and of inventory

How the tables of a server hold orders and inventory. `Holds` says that the tables have the rows
of these records and no others, and for each statement of the ledger there is a lemma that says
what carrying it out comes to in terms of the records: which rows the guard picks, whether the
schema accepts the new ones, and what the tables hold afterwards.

A server may keep a moment less exactly than it was sent, so that what it keeps of a record is the
record with other dates.
-/

namespace FlashSale

/-- The row of an order. The fields that the table does not have are null. -/
def Order.tuple (o : Order) : Database.Row
  | .id => .uuid o.id
  | .itemId => .text o.itemId
  | .userId => .text o.userId
  | .quantity => .number o.quantity.toInt
  | .status => .text o.status.name
  | .createdAt => .moment o.createdAt
  | .updatedAt => .moment o.updatedAt
  | _ => .null

/-- The row of an inventory. The fields that the table does not have are null. -/
def Inventory.tuple (i : Inventory) : Database.Row
  | .itemId => .text i.itemId
  | .stock => .number i.quantity.toInt
  | .version => .number i.version.toInt
  | .createdAt => .moment i.createdAt
  | .updatedAt => .moment i.updatedAt
  | _ => .null

/-- What a server keeps of an order. Its dates may be kept less exactly than they were
sent. -/
def Order.kept (keep : Timestamp → Timestamp) (o : Order) : Order :=
  { o with createdAt := keep o.createdAt, updatedAt := keep o.updatedAt }

/-- What a server keeps of an inventory. -/
def Inventory.kept (keep : Timestamp → Timestamp) (i : Inventory) : Inventory :=
  { i with createdAt := keep i.createdAt, updatedAt := keep i.updatedAt }

namespace Database.Ledger

variable (keep : Timestamp → Timestamp)

theorem of_inventoryFields (i : Inventory) :
    Row.of ((inventoryFields i.toRow).map fun field => (field.1, field.2.kept keep)) =
      (i.kept keep).tuple := by
  funext c
  cases c <;> rfl

theorem of_orderFields (o : Order) :
    Row.of ((orderFields o.toRow).map fun field => (field.1, field.2.kept keep)) =
      (o.kept keep).tuple := by
  funext c
  cases c <;> rfl

theorem inventoryOfRow_tuple (i : Inventory) :
    inventoryOfRow ([.itemId, .stock, .version, .createdAt, .updatedAt].map i.tuple) =
      .ok i := by
  simp [inventoryOfRow, Inventory.tuple, Value.text?, Value.word32?, Value.moment?,
    Value.number?, InventoryRow.toInventory, bind, Except.bind, pure, Except.pure]

theorem orderOfRow_tuple (o : Order) :
    orderOfRow ([.id, .itemId, .userId, .quantity, .status, .createdAt, .updatedAt].map
      o.tuple) = .ok o := by
  simp [orderOfRow, orderRowOfRow, Order.tuple, Value.text?, Value.uuid?,
    Value.word32?, Value.moment?, Value.number?, OrderRow.toOrder, Except.mapError, bind,
    Except.bind, pure, Except.pure]

/-- The schema accepts an inventory if its quantity is not negative. Its other checks
hold of every record. -/
theorem admit_inventory {i : Inventory} (nonneg : 0 ≤ i.quantity.toInt) :
    inventorySchema.accept .inventory i.tuple = .ok i.tuple := by
  simp [Schema.accept, inventorySchema, Schema.fieldFault?, Inventory.tuple, Column.kind, nonneg,
    Expr.truth, Expr.atLeast, Expr.value, Value.atLeast, Value.kept, bind, Except.bind]

theorem admit_order {o : Order} (positive : 0 < o.quantity.toInt) :
    ordersSchema.accept .orders o.tuple = .ok o.tuple := by
  have named : o.status.name.length ≤ 32 := by cases o.status <;> decide
  have enough : 1 ≤ o.quantity.toInt := positive
  simp [Schema.accept, ordersSchema, Schema.fieldFault?, Order.tuple, Column.kind, named, enough,
    Expr.truth, Expr.atLeast, Expr.value, Value.atLeast, Value.kept, bind, Except.bind]

theorem ofItem_picks (i : Inventory) (item : String) :
    (ofItem item).picks keep i.tuple = .ok (decide (i.itemId = item)) := by
  simp [Expr.picks, ofItem, Expr.equals, Expr.truth, Expr.value, Value.kept, Inventory.tuple,
    Value.equals, bind, Except.bind, pure, Except.pure]

theorem bothHold_some (a b : Bool) : bothHold (some a) (some b) = some (a && b) := by
  cases a <;> cases b <;> rfl

/-- The guard of a commit picks the row of the item if it covers the quantity. Nothing
in the row is empty, so that the guard can be told. -/
theorem covered_picks (i : Inventory) (item : String) (quantity : Int32) :
    (Expr.both (ofItem item) (.atLeast stockField (number quantity))).picks keep i.tuple =
      .ok (i.itemId = item && quantity.toInt ≤ i.quantity.toInt) := by
  simp [Expr.picks, ofItem, stockField, number, Expr.atLeast, Expr.both, bothHold_some,
    Expr.equals, Expr.truth, Expr.value, Value.kept, Inventory.tuple, Value.equals, Value.atLeast,
    bind, Except.bind, pure, Except.pure]

/-- The guard of an update picks the row of the item if it has the version. -/
theorem current_picks (i : Inventory) (item : String) (version : Int32) :
    (Expr.both (ofItem item) (.equals (.field .inventory .version) (number version))).picks keep
      i.tuple = .ok (i.itemId = item && i.version.toInt = version.toInt) := by
  simp [Expr.picks, ofItem, number, Expr.both, bothHold_some,
    Expr.equals, Expr.truth, Expr.value, Value.kept, Inventory.tuple, Value.equals,
    bind, Except.bind, pure, Except.pure]

theorem taken_value {i : Inventory} {quantity left : Int32}
    (remaining : left.toInt = i.quantity.toInt - quantity.toInt) :
    (Expr.minus stockField (number quantity)).value keep i.tuple none =
      .ok (.number left.toInt) := by
  have fits : word32? left.toInt = some left := word32?_toInt left
  simp [Expr.minus, stockField, number, Expr.value, Value.combine, Value.kept, Inventory.tuple,
    ← remaining, fits, bind, Except.bind]

/-- The assignments of a statement leave the row of the changed inventory, dated as the
server keeps the moment. -/
theorem change_inventory {i : Inventory} {excluded : Option Row} {stock : Expr}
    {left version : Int32} (now : Timestamp)
    (value : stock.value keep i.tuple excluded = .ok (.number left.toInt))
    (risen : version.toInt = i.version.toInt + 1) :
    i.tuple.change keep excluded [(.stock, stock), nextVersion, touchedAt now] =
      .ok { i with quantity := left, version, updatedAt := keep now }.tuple := by
  have fits : word32? version.toInt = some version := word32?_toInt version
  have raised : nextVersion.2.value keep i.tuple excluded = .ok (.number version.toInt) := by
    simp [nextVersion, Expr.plus, Expr.value, Value.combine, Value.kept, Inventory.tuple, ← risen,
      fits, bind, Except.bind]
  have touched : (touchedAt now).2.value keep i.tuple excluded = .ok (.moment (keep now)) := rfl
  simp only [Row.change, List.mapM_cons, List.mapM_nil, value, raised, touched, bind, Except.bind,
    pure, Except.pure]
  refine congrArg Except.ok (funext fun c => ?_)
  cases c <;> rfl

/-- The tables hold the rows of these orders and of this inventory, and no others. They
come in the order in which they were inserted. -/
structure Holds (tables : Tables) (orders : List Order) (inventory : List Inventory) : Prop where
  orders : tables .orders = orders.map Order.tuple
  inventory : tables .inventory = inventory.map Inventory.tuple

variable {keep} {tables : Tables} {orders : List Order} {inventory front back : List Inventory}
  {i i' : Inventory}

theorem Holds.writeInventory (holds : Holds tables orders inventory) (after : List Inventory) :
    Holds (tables.write .inventory (after.map Inventory.tuple)) orders after where
  orders := (Tables.write_of_ne (by decide)).trans holds.orders
  inventory := Tables.write_self ..

theorem Holds.writeOrders (holds : Holds tables orders inventory) (after : List Order) :
    Holds (tables.write .orders (after.map Order.tuple)) after inventory where
  orders := Tables.write_self ..
  inventory := (Tables.write_of_ne (by decide)).trans holds.inventory

section Rewriting

variable (pick : Row → Except Fault Bool) (change : Row → Except Fault Row)

theorem rewrite_unpicked (others : ∀ j ∈ inventory, pick j.tuple = .ok false) :
    inventorySchema.rewrite .inventory pick change (inventory.map Inventory.tuple) =
      .ok (0, inventory.map Inventory.tuple) := by
  induction inventory with
  | nil => rfl
  | cons j rest ih =>
      obtain ⟨first, later⟩ := List.forall_mem_cons.mp others
      simp [Schema.rewrite, first, ih later, bind, Except.bind, pure, Except.pure]

/-- A rewriting that picks one row changes that one, and the table has as many rows as
before. -/
theorem rewrite_picked (others : ∀ j ∈ front ++ back, pick j.tuple = .ok false)
    (picked : pick i.tuple = .ok true) (changed : change i.tuple = .ok i'.tuple)
    (nonneg : 0 ≤ i'.quantity.toInt) :
    inventorySchema.rewrite .inventory pick change ((front ++ i :: back).map Inventory.tuple) =
      .ok (1, (front ++ i' :: back).map Inventory.tuple) := by
  induction front with
  | nil =>
      have rest := rewrite_unpicked pick change (List.nil_append back ▸ others)
      simp [Schema.rewrite, picked, changed, admit_inventory nonneg, rest, bind, Except.bind, pure,
        Except.pure]
  | cons j rest ih =>
      obtain ⟨first, later⟩ := List.forall_mem_cons.mp others
      have tail := ih later
      rw [List.map_append, List.map_cons] at tail
      simp [Schema.rewrite, first, tail, bind, Except.bind, pure, Except.pure]

/-- No two rows have the same key if no two inventories are of the same item. -/
theorem keys_nodup (nodup : (inventory.map Inventory.itemId).Nodup) :
    ((inventory.map Inventory.tuple).map fun row => row inventorySchema.key).Nodup := by
  have keys : ((inventory.map Inventory.tuple).map fun row => row inventorySchema.key) =
      (inventory.map Inventory.itemId).map Value.text := by
    simp only [List.map_map]
    rfl
  rw [keys]
  exact nodup.map fun _ _ => Value.text.inj

theorem update_unpicked (nodup : (inventory.map Inventory.itemId).Nodup)
    (others : ∀ j ∈ inventory, pick j.tuple = .ok false) :
    inventorySchema.update .inventory pick change (inventory.map Inventory.tuple) =
      .ok (0, inventory.map Inventory.tuple) := by
  simp only [Schema.update, rewrite_unpicked pick change others, bind, Except.bind]
  exact if_pos (keys_nodup nodup)

theorem update_picked (nodup : ((front ++ i :: back).map Inventory.itemId).Nodup)
    (others : ∀ j ∈ front ++ back, pick j.tuple = .ok false)
    (picked : pick i.tuple = .ok true) (changed : change i.tuple = .ok i'.tuple)
    (named : i'.itemId = i.itemId) (nonneg : 0 ≤ i'.quantity.toInt) :
    inventorySchema.update .inventory pick change ((front ++ i :: back).map Inventory.tuple) =
      .ok (1, (front ++ i' :: back).map Inventory.tuple) := by
  simp only [Schema.update, rewrite_picked pick change others picked changed nonneg, bind,
    Except.bind]
  have after : ((front ++ i' :: back).map Inventory.itemId).Nodup := by
    simpa [named] using nodup
  exact if_pos (keys_nodup after)

end Rewriting

variable {changes : List Assignment} {guard : Expr}

theorem carryOut_update_unpicked (holds : Holds tables orders inventory)
    (nodup : (inventory.map Inventory.itemId).Nodup)
    (others : ∀ j ∈ inventory, guard.picks keep j.tuple = .ok false) :
    ∃ tables', Holds tables' orders inventory ∧
      (Statement.update .inventory changes guard).carryOut keep tables =
        .ok (.affected 0, tables') := by
  have updated := update_unpicked (fun row => guard.picks keep row)
    (fun row => row.change keep none changes) nodup others
  refine ⟨_, holds.writeInventory inventory, ?_⟩
  simp only [Statement.carryOut, Relation.schema, holds.inventory, updated, bind, Except.bind, pure,
    Except.pure]

/-- An update whose guard picks one row changes it. As keys are distinct, no guard of
the ledger picks two. -/
theorem carryOut_update_picked (holds : Holds tables orders (front ++ i :: back))
    (nodup : ((front ++ i :: back).map Inventory.itemId).Nodup)
    (others : ∀ j ∈ front ++ back, guard.picks keep j.tuple = .ok false)
    (picked : guard.picks keep i.tuple = .ok true)
    (changed : i.tuple.change keep none changes = .ok i'.tuple) (named : i'.itemId = i.itemId)
    (nonneg : 0 ≤ i'.quantity.toInt) :
    ∃ tables', Holds tables' orders (front ++ i' :: back) ∧
      (Statement.update .inventory changes guard).carryOut keep tables =
        .ok (.affected 1, tables') := by
  have updated := update_picked (fun row => guard.picks keep row)
    (fun row => row.change keep none changes) nodup others picked changed named nonneg
  refine ⟨_, holds.writeInventory _, ?_⟩
  simp only [Statement.carryOut, Relation.schema, holds.inventory, updated, bind, Except.bind, pure,
    Except.pure]

variable {now : Timestamp} {item : String} {stock version : Int32}

theorem carryOut_seed_new (holds : Holds tables orders inventory)
    (unknown : ∀ j ∈ inventory, j.itemId ≠ item) (nonneg : 0 ≤ stock.toInt) :
    ∃ tables', Holds tables' orders (inventory ++ [(Inventory.fresh item stock now).kept keep]) ∧
      (seedStatement now item stock).carryOut keep tables = .ok (.affected 1, tables') := by
  have admitted := admit_inventory (i := (Inventory.fresh item stock now).kept keep) nonneg
  have free : (inventory.map Inventory.tuple).any
      (fun old => old inventorySchema.key = .text item) = false := by
    simpa [inventorySchema, Inventory.tuple] using unknown
  have key : ((Inventory.fresh item stock now).kept keep).tuple inventorySchema.key = .text item :=
    rfl
  refine ⟨_, holds.writeInventory _, ?_⟩
  simp only [seedStatement, Statement.carryOut, Relation.schema, holds.inventory,
    of_inventoryFields, Schema.insert, admitted, key, free, List.map_append, List.map_cons,
    List.map_nil, bind, Except.bind, pure, Except.pure]
  rfl

variable (keep now) in
/-- Seeding an item that is there changes its row, as the insertion meets the key. -/
theorem carryOut_seed_again (holds : Holds tables orders (front ++ i :: back))
    (nodup : ((front ++ i :: back).map Inventory.itemId).Nodup)
    (others : ∀ j ∈ front ++ back, j.itemId ≠ i.itemId)
    (risen : version.toInt = i.version.toInt + 1) (nonneg : 0 ≤ stock.toInt) :
    ∃ tables', Holds tables' orders
        (front ++ { i with quantity := stock, version, updatedAt := keep now } :: back) ∧
      (seedStatement now i.itemId stock).carryOut keep tables = .ok (.affected 1, tables') := by
  have admitted := admit_inventory (i := (Inventory.fresh i.itemId stock now).kept keep) nonneg
  have key : ((Inventory.fresh i.itemId stock now).kept keep).tuple inventorySchema.key =
      .text i.itemId := rfl
  have taken : ((front ++ i :: back).map Inventory.tuple).any
      (fun old => old inventorySchema.key = .text i.itemId) = true := by
    simp [inventorySchema, Inventory.tuple]
  have value : (Expr.excluded .stock).value keep i.tuple
      (some ((Inventory.fresh i.itemId stock now).kept keep).tuple) = .ok (.number stock.toInt) :=
    rfl
  have changed : i.tuple.change keep (some ((Inventory.fresh i.itemId stock now).kept keep).tuple)
      [(.stock, .excluded .stock), nextVersion, touchedAt now] = .ok _ :=
    change_inventory keep now value risen
  have updated := update_picked (fun old => .ok (old inventorySchema.key = .text i.itemId))
    (fun old => old.change keep (some ((Inventory.fresh i.itemId stock now).kept keep).tuple)
      [(.stock, .excluded .stock), nextVersion, touchedAt now])
    nodup (fun j member => by simp [inventorySchema, Inventory.tuple, others j member])
    (by simp [inventorySchema, Inventory.tuple]) changed rfl nonneg
  refine ⟨_, holds.writeInventory _, ?_⟩
  simp only [seedStatement, Statement.carryOut, Relation.schema, holds.inventory,
    of_inventoryFields, Schema.insert, admitted, key, taken, updated, bind, Except.bind, pure,
    Except.pure]
  rfl

variable {order : Order}

variable (keep) in
theorem carryOut_insertOrder_new (holds : Holds tables orders inventory)
    (unknown : ∀ o ∈ orders, o.id ≠ order.id) (positive : 0 < order.quantity.toInt) :
    ∃ tables', Holds tables' (orders ++ [order.kept keep]) inventory ∧
      (insertOrder order).carryOut keep tables = .ok (.affected 1, tables') := by
  have admitted := admit_order (o := order.kept keep) positive
  have key : (order.kept keep).tuple ordersSchema.key = .uuid order.id := rfl
  have free : (orders.map Order.tuple).any
      (fun old => old ordersSchema.key = .uuid order.id) = false := by
    simpa [ordersSchema, Order.tuple] using unknown
  refine ⟨_, holds.writeOrders _, ?_⟩
  simp only [insertOrder, Statement.carryOut, Relation.schema, holds.orders, of_orderFields,
    Schema.insert, admitted, key, free, List.map_append, List.map_cons, List.map_nil, bind,
    Except.bind, pure, Except.pure]
  rfl

/-- An order with a known identifier is refused for its key, which the ledger takes as a
duplicate. -/
theorem carryOut_insertOrder_taken (holds : Holds tables orders inventory)
    (known : ∃ o ∈ orders, o.id = order.id) (positive : 0 < order.quantity.toInt) :
    (insertOrder order).carryOut keep tables = .error .duplicateKey := by
  have admitted := admit_order (o := order.kept keep) positive
  have key : (order.kept keep).tuple ordersSchema.key = .uuid order.id := rfl
  have taken : (orders.map Order.tuple).any
      (fun old => old ordersSchema.key = .uuid order.id) = true := by
    simpa [ordersSchema, Order.tuple] using known
  simp only [insertOrder, Statement.carryOut, Relation.schema, holds.orders, of_orderFields,
    Schema.insert, admitted, key, taken, bind, Except.bind, pure, Except.pure]
  rfl

theorem pickRows_map {α : Type} {tuple : α → Row} {xs : List α} {p : α → Bool}
    (picks : ∀ x, guard.picks keep (tuple x) = .ok (p x)) :
    pickRows keep guard (xs.map tuple) = .ok ((xs.filter p).map tuple) := by
  induction xs with
  | nil => rfl
  | cons x rest ih =>
      simp only [List.map_cons, pickRows, picks, ih, bind, Except.bind, pure, Except.pure]
      cases eq : p x <;> simp [eq]

variable (keep) in
theorem carryOut_selectInventory (holds : Holds tables orders inventory) (item : String) :
    (selectInventory item).carryOut keep tables = .ok (.rows (((inventory.filter
      (·.itemId = item)).take 1).map fun i =>
        [.itemId, .stock, .version, .createdAt, .updatedAt].map i.tuple), tables) := by
  simp only [selectInventory, Statement.carryOut, Relation.schema, holds.inventory,
    pickRows_map (fun i => ofItem_picks keep i item), bind, Except.bind, pure, Except.pure,
    ← List.map_take, List.map_map]
  rfl

variable (keep) in
theorem carryOut_selectOrder (holds : Holds tables orders inventory) (id : Uuid) :
    (selectOrder id).carryOut keep tables = .ok (.rows (((orders.filter
      (·.id = id)).take 1).map fun o =>
        [.id, .itemId, .userId, .quantity, .status, .createdAt, .updatedAt].map o.tuple),
      tables) := by
  have picks (o : Order) : (Expr.equals (.field .orders .id) (.constant (.uuid id))).picks keep
      o.tuple = .ok (decide (o.id = id)) := by
    simp [Expr.picks, Expr.equals, Expr.truth, Expr.value, Value.kept, Order.tuple, Value.equals,
      bind, Except.bind, pure, Except.pure]
  simp only [selectOrder, Statement.carryOut, Relation.schema, holds.orders, pickRows_map picks,
    bind, Except.bind, pure, Except.pure, ← List.map_take, List.map_map]
  rfl

variable (keep) in
/-- Counting the orders for an item gives their number, as long as it is a word. -/
theorem carryOut_count (holds : Holds tables orders inventory) (item : String)
    (few : orders.length < 9223372036854775808) :
    (countStatement item).carryOut keep tables =
      .ok (.rows [[.number (orders.countP (·.itemId = item))]], tables) := by
  have picks (o : Order) : (Expr.equals (.field .orders .itemId) (.constant (.text item))).picks
      keep o.tuple = .ok (decide (o.itemId = item)) := by
    simp [Expr.picks, Expr.equals, Expr.truth, Expr.value, Value.kept, Order.tuple, Value.equals,
      bind, Except.bind, pure, Except.pure]
  have fits : (word64? (orders.filter (·.itemId = item)).length).isSome = true := by
    have fewer := List.length_filter_le (fun o : Order => o.itemId = item) orders
    exact Option.isSome_iff_exists.mpr (exists_word64? (by omega) (by omega))
  simp only [countStatement, Statement.carryOut, Relation.schema, holds.orders, pickRows_map picks,
    List.length_map, fits, List.countP_eq_length_filter, bind, Except.bind, pure, Except.pure]
  rfl

end Database.Ledger

end FlashSale
