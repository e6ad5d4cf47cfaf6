import FlashSale.Proofs.Database.Conformity
import FlashSale.Proofs.Table

/-!
# Two ledgers that agree

The ledger in memory and the ledger in a database, asked the same calls, answer alike and
hold the same orders and the same stock and version of each item. The two are asked at
moments of their own, and the server may keep moments less exactly than it is sent them, so
that dates are all in which they may differ.

The argument is a simulation: what the tables hold is a listing of what the ledger in memory
holds, and each call leaves it so. Memory writes an order and its stock in one step; the
server inserts the order first and takes it back if the guarded update finds no row.
-/

namespace FlashSale

open Database (Server Tables)
open Database.Ledger (Holds)

namespace Database.Ledger

variable {keep : Timestamp → Timestamp} {now : Timestamp} {order : Order}
  {tables tables₁ tables₂ : Tables} {touched : Nat}

section Commit

variable (user : NoZero order.userId) (item : NoZero order.itemId)

include user item

/-- An order whose identifier is taken is refused, and the transaction is rolled back. -/
theorem commit_refused
    (faulty : (insertOrder order).carryOut keep tables = .error .duplicateKey) :
    Dialogue.run (Server.serve keep) (handle now (.commit order)) { tables } =
      (.unit (.error (.unavailable Fault.duplicateKey.message)), { tables }) := by
  have first := execute_fault (s := opened tables) rfl rfl (insertOrder_clean user item) faulty
  have body : Dialogue.run (Server.serve keep) (commitBody now order) (opened tables) =
      (.error (.unavailable Fault.duplicateKey.message),
        { opened tables with tables := tables, failed := true }) := by
    simp only [commitBody, run_bind, first]
    rfl
  have rolledBack := transaction_error unavailable .discard body
  simp [handle, commit, run_bind, rolledBack]

section Inserted

variable (inserted : (insertOrder order).carryOut keep tables = .ok (.affected 1, tables₁))
  (taken : (takeStock now order).carryOut keep tables₁ = .ok (.affected touched, tables₂))

include inserted taken

/-- Where both statements are carried out, the number of rows that the second one touched
decides. -/
theorem commitBody_inserted :
    Dialogue.run (Server.serve keep) (commitBody now order) (opened tables) =
      (if touched = 0 then .error .optimisticLockConflict else .ok (),
        { opened tables with tables := tables₂ }) := by
  have first := execute_ok (s := opened tables) rfl rfl (insertOrder_clean user item) inserted
  have second := execute_ok (s := { opened tables with tables := tables₁ }) rfl rfl
    (takeStock_clean item) taken
  cases touched with
  | zero => simp [commitBody, run_bind, first, second]
  | succ n => simp [commitBody, run_bind, first, second]

/-- The order goes again if the stock of no row covers it. -/
theorem commit_uncovered (none : touched = 0) :
    Dialogue.run (Server.serve keep) (handle now (.commit order)) { tables } =
      (.unit (.error .optimisticLockConflict), { tables }) := by
  have body := commitBody_inserted user item inserted taken
  rw [if_pos none] at body
  have rolledBack := transaction_error unavailable .discard body
  simp [handle, commit, run_bind, rolledBack]

theorem commit_covered (some : touched ≠ 0) :
    Dialogue.run (Server.serve keep) (handle now (.commit order)) { tables } =
      (.unit (.ok ()), { tables := tables₂ }) := by
  have body := commitBody_inserted user item inserted taken
  rw [if_neg some] at body
  have committed := transaction_ok unavailable .discard body
  simp [handle, commit, run_bind, committed]

end Inserted
end Commit

section Single

variable {item : String} {stock version : Int32} {tables' : Tables} (legal : NoZero item)
  (nonneg : ¬ stock < 0)

include legal nonneg

theorem seed_carried
    (carried : (seedStatement now item stock).carryOut keep tables = .ok (.affected 1, tables')) :
    Dialogue.run (Server.serve keep) (handle now (.seed item stock)) { tables } =
      (.unit (.ok ()), { tables := tables' }) := by
  have asked := execute_ok (s := { tables }) rfl rfl (seedStatement_clean legal) carried
  simp [handle, seed, nonneg, run_bind, asked]

/-- The number of rows that the statement touched decides. None means that the row has
another version, or that there is none. -/
theorem update_carried
    (carried : (overwrite now item stock version).carryOut keep tables =
      .ok (.affected touched, tables')) :
    Dialogue.run (Server.serve keep) (handle now (.update item stock version)) { tables } =
      (.unit (if touched = 0 then .error .optimisticLockConflict else .ok ()),
        { tables := tables' }) := by
  have asked := execute_ok (s := { tables }) rfl rfl (overwrite_clean legal) carried
  cases touched with
  | zero => simp [handle, update, nonneg, run_bind, asked]
  | succ n => simp [handle, update, nonneg, run_bind, asked]

end Single
end Database.Ledger

/-- The tables hold what the ledger in memory holds, up to dates. The order of the rows
in the tables is their own. -/
structure Mirrors (l : Ledger) (tables : Tables) (orders : List Order)
    (inventory : List Inventory) : Prop where
  holds : Holds tables orders inventory
  orders : l.orders.Lists Order.id Order.undated orders
  inventory : l.inventory.Lists Inventory.itemId Inventory.undated inventory
  available : l.unavailable = false

/-- A call is answered alike by the ledger in memory and the ledger in a database, which
mirror each other afterwards; no transaction is left open. The two may be asked at
different moments. -/
def AnsweredAlike (keep : Timestamp → Timestamp) (here there : Timestamp) (l : Ledger)
    (tables : Tables) (request : LedgerRequest) : Prop :=
  ∃ reply reply' l' tables' orders inventory,
    l.handle here request = (some reply, l') ∧
    Dialogue.run (Server.serve keep) (Database.Ledger.handle there request) { tables } =
      (reply', { tables := tables' }) ∧
    reply.bare = reply'.bare ∧ Mirrors l' tables' orders inventory

/-- The versions are below their limit, and there are no more orders than a word can count. -/
structure Ledger.WithinRange (l : Ledger) : Prop where
  versions : l.VersionsBelowLimit
  orders : l.orders.entries.length < 9223372036854775808

instance (l : Ledger) : Decidable l.WithinRange :=
  decidable_of_iff (l.VersionsBelowLimit ∧ l.orders.entries.length < 9223372036854775808)
    ⟨fun h => ⟨h.1, h.2⟩, fun h => ⟨h.versions, h.orders⟩⟩

theorem Ledger.commit_grows (l : Ledger) (now : Timestamp) (order : Order) :
    l.orders.entries.length ≤ (l.commit now order).2.orders.entries.length := by
  obtain ⟨e, eq⟩ | ⟨row, -, absent, -, ⟨-, eq⟩ | ⟨left, -, ⟨_, write, eq⟩ | ⟨l', write, eq⟩⟩⟩ :=
    l.commit_cases now order <;> rw [eq]
  all_goals have kept := congrArg (fun p => p.2.orders) write
  all_goals simp only [writeQuantity_orders] at kept
  · rw [kept]
  · have unknown : l'.orders.get? order.id = none := kept ▸ absent
    simp [Table.insert, Table.erase_of_get?_eq_none unknown, kept]

/-- No call brings a ledger back into range. So it is enough to look at the end of a
course. -/
theorem Ledger.handle_within {l : Ledger} {now : Timestamp} {request : LedgerRequest}
    (within : (l.handle now request).2.WithinRange) : l.WithinRange := by
  cases request with
  | seed item stock =>
      exact ⟨seed_versions within.versions, l.seed_orders now item stock ▸ within.orders⟩
  | commit order =>
      exact ⟨commit_versions rfl within.versions, (l.commit_grows now order).trans_lt within.orders⟩
  | update item quantity version =>
      exact ⟨update_versions within.versions,
        l.update_orders now item quantity version ▸ within.orders⟩
  | inventory item => exact within
  | findOrder id => exact within
  | countOrders item => exact within

namespace Mirrors

open Database Database.Ledger

variable {keep : Timestamp → Timestamp} {here there : Timestamp} {l : FlashSale.Ledger}
  {tables : Tables} {orders : List Order} {inventory : List Inventory} {item : String}
  {stock quantity version : Int32} {order : Order}

theorem readFirst_take {α : Type} (read : List Value → Except StoreError α)
    {row : α → List Value} (reads : ∀ a, read (row a) = .ok a) (as : List α) :
    readFirst read ((as.take 1).map row) = .ok as.head? := by
  cases as with
  | nil => rfl
  | cons a rest => exact congrArg (Except.map some) (reads a)

theorem row_known (mirrors : Mirrors l tables orders inventory) {row : Inventory}
    (member : row ∈ inventory) : ∃ row', l.inventory.get? row.itemId = some row' ∧
      row'.quantity = row.quantity ∧ row'.version = row.version := by
  obtain ⟨row', found, seen⟩ := mirrors.inventory.get? (fun _ => rfl) member
  obtain ⟨-, quantity, version⟩ := Inventory.of_undated_eq seen
  exact ⟨row', found, quantity, version⟩

/-- The row of an item stands in the tables as in memory, and after the same write it
does so again. This is all that the calls need to know of the other rows. -/
structure RowOf (l : FlashSale.Ledger) (item : String) (row : Inventory)
    (front : List Inventory) (row' : Inventory) (back : List Inventory) : Prop where
  named : row'.itemId = item
  quantity : row'.quantity = row.quantity
  version : row'.version = row.version
  others : ∀ other ∈ front ++ back, other.itemId ≠ item
  written : ∀ (left version : Int32) (here there : Timestamp),
    (l.inventory.insert item { row with quantity := left, version, updatedAt := here }).Lists
      Inventory.itemId Inventory.undated
      (front ++ { row' with quantity := left, version, updatedAt := there } :: back)

theorem rowOf (mirrors : Mirrors l tables orders inventory) {row : Inventory}
    (found : l.inventory.get? item = some row) :
    ∃ front row' back, inventory = front ++ row' :: back ∧ RowOf l item row front row' back := by
  have keyed := mirrors.inventory.keyed item row found
  obtain ⟨front, row', back, rfl, seen, others, rest⟩ :=
    mirrors.inventory.split (fun _ => rfl) found
  obtain ⟨named, quantity, version⟩ := Inventory.of_undated_eq seen
  refine ⟨front, row', back, rfl, named.trans keyed, quantity, version, others, ?_⟩
  intro left version here there
  refine rest.insert ?_ keyed
  simp [Inventory.undated, named]

theorem nodup (mirrors : Mirrors l tables orders inventory) :
    (inventory.map Inventory.itemId).Nodup := mirrors.inventory.nodup fun _ => rfl

theorem seed_negative (mirrors : Mirrors l tables orders inventory) (negative : stock < 0) :
    AnsweredAlike keep here there l tables (.seed item stock) := by
  have memory : l.handle here (.seed item stock) =
      (some (.unit (.error (.invalidStock stock))), l) := by
    simp [Ledger.handle, Ledger.seed_of_negative negative]
  have database : Dialogue.run (Server.serve keep)
      (Database.Ledger.handle there (.seed item stock)) { tables } =
        (.unit (.error (.invalidStock stock)), { tables }) := by
    simp [Database.Ledger.handle, Database.Ledger.seed, negative, run_bind]
  exact ⟨_, _, _, _, _, _, memory, database, rfl, mirrors⟩

theorem toInt_nonneg (nonneg : ¬ stock < 0) : 0 ≤ stock.toInt := by
  rw [Int32.lt_iff_toInt_lt] at nonneg
  exact Int.not_lt.mp nonneg

theorem seed_new (mirrors : Mirrors l tables orders inventory) (legal : NoZero item)
    (nonneg : ¬ stock < 0) (absent : l.inventory.get? item = none) :
    AnsweredAlike keep here there l tables (.seed item stock) := by
  obtain ⟨tables', holds, carried⟩ := carryOut_seed_new mirrors.holds
    (mirrors.inventory.absent (fun _ => rfl) absent) (toInt_nonneg nonneg)
  have memory : l.handle here (.seed item stock) = (some (.unit (.ok ())), { l with
      inventory := l.inventory.insert item (.fresh item stock here) }) := by
    simp [Ledger.handle, l.seed_of_absent nonneg absent]
  refine ⟨_, _, _, _, _, _, memory, seed_carried legal nonneg carried, rfl, holds,
    mirrors.orders, ?_, mirrors.available⟩
  exact mirrors.inventory.insert_new absent rfl rfl

theorem seed_again (mirrors : Mirrors l tables orders inventory) (below : l.VersionsBelowLimit)
    (legal : NoZero item) (nonneg : ¬ stock < 0) {row : Inventory}
    (found : l.inventory.get? item = some row) :
    AnsweredAlike keep here there l tables (.seed item stock) := by
  obtain ⟨front, row', back, rfl, place⟩ := mirrors.rowOf found
  obtain rfl := place.named
  obtain ⟨version, risen, replied⟩ := l.seed_of_found here nonneg found (below _ _ found)
  obtain ⟨tables', holds, carried⟩ := carryOut_seed_again keep there mirrors.holds mirrors.nodup
    place.others (place.version.symm ▸ risen) (toInt_nonneg nonneg)
  have memory : l.handle here (.seed row'.itemId stock) = (some (.unit (.ok ())), { l with
      inventory := l.inventory.insert row'.itemId
        { row with quantity := stock, version, updatedAt := here } }) := by
    simp [Ledger.handle, replied]
  exact ⟨_, _, _, _, _, _, memory, seed_carried legal nonneg carried, rfl, holds, mirrors.orders,
    place.written .., mirrors.available⟩

theorem seed (mirrors : Mirrors l tables orders inventory) (below : l.VersionsBelowLimit)
    (legal : NoZero item) : AnsweredAlike keep here there l tables (.seed item stock) := by
  by_cases negative : stock < 0
  · exact mirrors.seed_negative negative
  · cases found : l.inventory.get? item with
    | none => exact mirrors.seed_new legal negative found
    | some row => exact mirrors.seed_again below legal negative found

theorem order_known (mirrors : Mirrors l tables orders inventory) {id : Uuid} {o : Order}
    (found : l.orders.get? id = some o) : ∃ o' ∈ orders, o'.id = id := by
  obtain ⟨front, o', back, rfl, seen, -, -⟩ := mirrors.orders.split (fun _ => rfl) found
  have same : o'.undated.id = o.undated.id := congrArg Order.id seen
  exact ⟨o', by simp, same.trans (mirrors.orders.keyed id o found)⟩

section Commit

variable (mirrors : Mirrors l tables orders inventory)
  (legal : (LedgerRequest.commit order).Legal)

include mirrors legal

theorem commit_known {old : Order} (known : l.orders.get? order.id = some old) :
    AnsweredAlike keep here there l tables (.commit order) := by
  obtain ⟨placed, user, item⟩ := legal
  have memory : l.handle here (.commit order) =
      (some (.unit (.error (.duplicateOrder order.id))), l) := by
    simp [Ledger.handle, l.commit_of_known mirrors.available known]
  have faulty : (insertOrder order).carryOut keep tables = .error .duplicateKey :=
    carryOut_insertOrder_taken mirrors.holds (mirrors.order_known known) placed.positive
  exact ⟨_, _, _, _, _, _, memory, commit_refused user item faulty, rfl, mirrors⟩

variable (unknown : l.orders.get? order.id = none)

include unknown

theorem commit_short (short : ∀ row, l.inventory.get? order.itemId = some row →
      row.quantity.toInt < order.quantity.toInt) :
    AnsweredAlike keep here there l tables (.commit order) := by
  obtain ⟨placed, user, item⟩ := legal
  obtain ⟨tables₁, holds₁, inserted⟩ := carryOut_insertOrder_new keep mirrors.holds
    (mirrors.orders.absent (fun _ => rfl) unknown) placed.positive
  have memory : l.handle here (.commit order) =
      (some (.unit (.error .optimisticLockConflict)), l) := by
    simp [Ledger.handle, l.commit_of_short mirrors.available unknown short]
  have unpicked : ∀ row ∈ inventory, (Expr.both (ofItem order.itemId)
      (.atLeast stockField (number order.quantity))).picks keep row.tuple = .ok false := by
    intro row member
    obtain ⟨row', found, quantity, -⟩ := mirrors.row_known member
    have less : row.itemId = order.itemId → row.quantity.toInt < order.quantity.toInt := by
      intro named
      rw [← quantity]
      exact short row' (named ▸ found)
    simpa [covered_picks] using less
  obtain ⟨tables₂, -, taken⟩ := carryOut_update_unpicked holds₁ mirrors.nodup unpicked
  exact ⟨_, _, _, _, _, _, memory, commit_uncovered user item inserted taken rfl, rfl, mirrors⟩

theorem commit_stocked (below : l.VersionsBelowLimit) {row : Inventory}
    (found : l.inventory.get? order.itemId = some row)
    (covered : order.quantity.toInt ≤ row.quantity.toInt) :
    AnsweredAlike keep here there l tables (.commit order) := by
  obtain ⟨placed, user, item⟩ := legal
  obtain ⟨tables₁, holds₁, inserted⟩ := carryOut_insertOrder_new keep mirrors.holds
    (mirrors.orders.absent (fun _ => rfl) unknown) placed.positive
  obtain ⟨front, row', back, rfl, place⟩ := mirrors.rowOf found
  obtain ⟨left, version, remaining, risen, replied⟩ := l.commit_of_covered here mirrors.available
    unknown found placed.positive covered (below _ _ found)
  have memory : l.handle here (.commit order) = (some (.unit (.ok ())), { l with
      orders := l.orders.insert order.id order
      inventory := l.inventory.insert order.itemId
        { row with quantity := left, version, updatedAt := here } }) := by
    simp [Ledger.handle, replied]
  have nonneg : 0 ≤ left.toInt := by omega
  have picked : (Expr.both (ofItem order.itemId)
      (.atLeast stockField (number order.quantity))).picks keep row'.tuple = .ok true := by
    rw [covered_picks, place.quantity, place.named]
    simpa using covered
  have unpicked : ∀ row ∈ front ++ back, (Expr.both (ofItem order.itemId)
      (.atLeast stockField (number order.quantity))).picks keep row.tuple = .ok false := by
    intro row member
    rw [covered_picks]
    simp [place.others row member]
  have changed := change_inventory keep there
    (taken_value keep (place.quantity.symm ▸ remaining)) (place.version.symm ▸ risen)
  obtain ⟨tables₂, holds₂, taken⟩ := carryOut_update_picked holds₁ mirrors.nodup unpicked picked
    changed rfl nonneg
  exact ⟨_, _, _, _, _, _, memory, commit_covered user item inserted taken (by decide), rfl,
    holds₂, mirrors.orders.insert_new unknown rfl rfl, place.written .., mirrors.available⟩

end Commit

theorem commit (mirrors : Mirrors l tables orders inventory) (below : l.VersionsBelowLimit)
    (legal : (LedgerRequest.commit order).Legal) :
    AnsweredAlike keep here there l tables (.commit order) := by
  cases known : l.orders.get? order.id with
  | some old => exact mirrors.commit_known legal known
  | none =>
      by_cases short : ∀ row, l.inventory.get? order.itemId = some row →
          row.quantity.toInt < order.quantity.toInt
      · exact mirrors.commit_short legal known short
      · push Not at short
        obtain ⟨row, found, covered⟩ := short
        exact mirrors.commit_stocked legal known below found covered

theorem update_negative (mirrors : Mirrors l tables orders inventory) (negative : quantity < 0) :
    AnsweredAlike keep here there l tables (.update item quantity version) := by
  have memory : l.handle here (.update item quantity version) =
      (some (.unit (.error (.invalidStock quantity))), l) := by
    simp [Ledger.handle, Ledger.update_of_negative negative]
  have database : Dialogue.run (Server.serve keep)
      (Database.Ledger.handle there (.update item quantity version)) { tables } =
        (.unit (.error (.invalidStock quantity)), { tables }) := by
    simp [Database.Ledger.handle, Database.Ledger.update, negative, run_bind]
  exact ⟨_, _, _, _, _, _, memory, database, rfl, mirrors⟩

theorem update_stale (mirrors : Mirrors l tables orders inventory) (legal : NoZero item)
    (nonneg : ¬ quantity < 0)
    (stale : ∀ row, l.inventory.get? item = some row → row.version ≠ version) :
    AnsweredAlike keep here there l tables (.update item quantity version) := by
  have memory : l.handle here (.update item quantity version) =
      (some (.unit (.error .optimisticLockConflict)), l) := by
    simp [Ledger.handle, Ledger.update_of_stale mirrors.available nonneg stale]
  have unpicked : ∀ row ∈ inventory, (Expr.both (ofItem item)
      (.equals (.field .inventory .version) (number version))).picks keep row.tuple =
        .ok false := by
    intro row member
    obtain ⟨row', found, -, same⟩ := mirrors.row_known member
    have differ : row.itemId = item → row.version.toInt ≠ version.toInt := by
      rintro rfl equal
      exact stale row' found (same.trans (Int32.toInt.inj equal))
    simpa [current_picks] using differ
  obtain ⟨tables', holds, carried⟩ :=
    carryOut_update_unpicked mirrors.holds mirrors.nodup unpicked
  exact ⟨_, _, _, _, _, _, memory, update_carried legal nonneg carried, rfl, holds,
    mirrors.orders, mirrors.inventory, mirrors.available⟩

theorem update_current (mirrors : Mirrors l tables orders inventory)
    (below : l.VersionsBelowLimit) (legal : NoZero item) (nonneg : ¬ quantity < 0)
    {row : Inventory} (found : l.inventory.get? item = some row) :
    AnsweredAlike keep here there l tables (.update item quantity row.version) := by
  obtain ⟨front, row', back, rfl, place⟩ := mirrors.rowOf found
  obtain ⟨next, risen, replied⟩ :=
    l.update_of_current here mirrors.available nonneg found (below _ _ found)
  have memory : l.handle here (.update item quantity row.version) =
      (some (.unit (.ok ())), { l with
        inventory := l.inventory.insert item
          { row with quantity, version := next, updatedAt := here } }) := by
    simp [Ledger.handle, replied]
  have picked : (Expr.both (ofItem item) (.equals (.field .inventory .version)
      (number row.version))).picks keep row'.tuple = .ok true := by
    rw [current_picks, place.named, place.version]
    simp
  have unpicked : ∀ other ∈ front ++ back, (Expr.both (ofItem item)
      (.equals (.field .inventory .version) (number row.version))).picks keep other.tuple =
        .ok false := by
    intro other member
    rw [current_picks]
    simp [place.others other member]
  have changed : row'.tuple.change keep none
      [(.stock, number quantity), nextVersion, touchedAt there] =
        .ok { row' with quantity, version := next, updatedAt := keep there }.tuple :=
    change_inventory keep there rfl (place.version.symm ▸ risen)
  obtain ⟨tables', holds, carried⟩ := carryOut_update_picked mirrors.holds mirrors.nodup unpicked
    picked changed rfl (toInt_nonneg nonneg)
  exact ⟨_, _, _, _, _, _, memory, update_carried legal nonneg carried, rfl, holds,
    mirrors.orders, place.written .., mirrors.available⟩

theorem update (mirrors : Mirrors l tables orders inventory) (below : l.VersionsBelowLimit)
    (legal : NoZero item) :
    AnsweredAlike keep here there l tables (.update item quantity version) := by
  by_cases negative : quantity < 0
  · exact mirrors.update_negative negative
  · by_cases stale : ∀ row, l.inventory.get? item = some row → row.version ≠ version
    · exact mirrors.update_stale legal negative stale
    · push Not at stale
      obtain ⟨row, found, rfl⟩ := stale
      exact mirrors.update_current below legal negative found

theorem inventory? (mirrors : Mirrors l tables orders inventory) (legal : NoZero item) :
    AnsweredAlike keep here there l tables (.inventory item) := by
  have memory : l.handle here (.inventory item) =
      (some (.inventory (.ok (l.inventory.get? item))), l) := by
    simp [Ledger.handle, l.inventory?_of_available mirrors.available]
  have asked := query_ok (s := { tables }) rfl rfl (selectInventory_clean legal)
    (carryOut_selectInventory keep mirrors.holds item)
  have database : Dialogue.run (Server.serve keep)
      (Database.Ledger.handle there (.inventory item)) { tables } =
        (.inventory (.ok (inventory.find? (·.itemId = item))), { tables }) := by
    have first := readFirst_take (fun row => (inventoryOfRow row).mapError unavailable)
      (fun i => congrArg (Except.mapError unavailable) (inventoryOfRow_tuple i))
      (inventory.filter (·.itemId = item))
    rw [List.head?_filter] at first
    simp only [Database.Ledger.handle, Database.Ledger.inventory?, run_bind, run_pure, asked]
    exact congrArg (fun found => (LedgerReply.inventory found, _)) first
  have alike := mirrors.inventory.find? (fun _ => rfl) item
  refine ⟨_, _, _, _, _, _, memory, database, ?_, mirrors⟩
  exact congrArg (fun found => LedgerReply.inventory (.ok found)) alike.symm

theorem findOrder? (mirrors : Mirrors l tables orders inventory) (id : Uuid) :
    AnsweredAlike keep here there l tables (.findOrder id) := by
  have asked := query_ok (s := { tables }) rfl rfl (selectOrder_clean id)
    (carryOut_selectOrder keep mirrors.holds id)
  have database : Dialogue.run (Server.serve keep)
      (Database.Ledger.handle there (.findOrder id)) { tables } =
        (.order (.ok (orders.find? (·.id = id))), { tables }) := by
    have first := readFirst_take orderOfRow orderOfRow_tuple (orders.filter (·.id = id))
    rw [List.head?_filter] at first
    simp only [Database.Ledger.handle, Database.Ledger.findOrder?, run_bind, run_pure, asked]
    exact congrArg (fun found => (LedgerReply.order found, _)) first
  have alike := mirrors.orders.find? (fun _ => rfl) id
  refine ⟨_, _, _, _, _, _, rfl, database, ?_, mirrors⟩
  exact congrArg (fun found => LedgerReply.order (.ok found)) alike.symm

theorem countOrders (mirrors : Mirrors l tables orders inventory)
    (few : l.orders.entries.length < 9223372036854775808) (legal : NoZero item) :
    AnsweredAlike keep here there l tables (.countOrders item) := by
  have length : orders.length = l.orders.entries.length := by
    simpa using mirrors.orders.same.length_eq
  have asked := query_ok (s := { tables }) rfl rfl (countStatement_clean legal)
    (carryOut_count keep mirrors.holds item (length ▸ few))
  have counted : orders.countP (·.itemId = item) = l.countOrders item :=
    mirrors.orders.count fun _ => rfl
  have database : Dialogue.run (Server.serve keep)
      (Database.Ledger.handle there (.countOrders item)) { tables } =
        (.count (.ok (l.countOrders item)), { tables }) := by
    obtain ⟨count, fits⟩ : ∃ count, word64? (l.countOrders item) = some count := by
      have fewer : l.countOrders item ≤ l.orders.entries.length := List.length_filter_le ..
      exact exists_word64? (by omega) (by omega)
    have read : countOfRow [.number (l.countOrders item)] = .ok count := by
      simp only [countOfRow, Value.word64?, Value.number?, fits, bind, Except.bind]
    rw [counted] at asked
    simp only [Database.Ledger.handle, Database.Ledger.countOrders, run_bind, run_pure, asked]
    simp [Except.mapError, bind, Except.bind, readFirst, read, Except.map,
      word64?_eq_some_iff.mp fits]
  exact ⟨_, _, _, _, _, _, rfl, database, rfl, mirrors⟩

variable (keep here there) in
/-- One call leaves the two as they were to each other, whichever call it is. This is
the step of which `Mirrors.handleAll` is the run. -/
theorem handle (mirrors : Mirrors l tables orders inventory) (within : l.WithinRange)
    {request : LedgerRequest} (legal : request.Legal) :
    AnsweredAlike keep here there l tables request := by
  cases request with
  | seed item stock => exact mirrors.seed within.versions legal
  | commit order => exact mirrors.commit within.versions legal
  | inventory item => exact mirrors.inventory? legal
  | update item quantity version => exact mirrors.update within.versions legal
  | findOrder id => exact mirrors.findOrder? id
  | countOrders item => exact mirrors.countOrders within.orders legal

end Mirrors

/-- A call, and the moments at which the two ledgers are asked. -/
structure DatedRequest where
  request : LedgerRequest
  here : Timestamp
  there : Timestamp

/-- One call after another of the ledger in memory. -/
def Ledger.handleAll (l : Ledger) : List DatedRequest → List (Option LedgerReply) × Ledger
  | [] => ([], l)
  | call :: rest =>
    let (reply, l) := l.handle call.here call.request
    let (replies, l) := l.handleAll rest
    (reply :: replies, l)

/-- One call after another of the ledger in a database. -/
def Database.handleAll {σ : Type} (serve : σ → Database.Statement → Database.Reply × σ) (s : σ) :
    List DatedRequest → List LedgerReply × σ
  | [] => ([], s)
  | call :: rest =>
    let (reply, s) := Dialogue.run serve (Database.Ledger.handle call.there call.request) s
    let (replies, s) := handleAll serve s rest
    (reply :: replies, s)

section Course

variable {keep : Timestamp → Timestamp} {l : Ledger} {tables : Tables} {orders : List Order}
  {inventory : List Inventory} {calls : List DatedRequest}

theorem Ledger.handleAll_within (within : (l.handleAll calls).2.WithinRange) : l.WithinRange := by
  induction calls generalizing l with
  | nil => exact within
  | cons call rest ih => exact handle_within (ih within)

/-- The replies are alike one by one, and nothing but dates tells the two ledgers apart. The ledger
in memory goes along with the model, call by call, and the database with the model as well. -/
theorem Mirrors.handleAll {σ : Type} {serve : σ → Database.Statement → Database.Reply × σ}
    {R : σ → Server → Prop} (conforms : Database.Conforms keep serve R) {server : σ}
    (related : R server { tables }) (mirrors : Mirrors l tables orders inventory)
    (legal : ∀ call ∈ calls, call.request.Legal) (within : (l.handleAll calls).2.WithinRange) :
    List.Forall₂ (fun reply reply' => reply.map LedgerReply.bare = some reply'.bare)
        (l.handleAll calls).1 (Database.handleAll serve server calls).1 ∧
      ∃ tables' orders inventory,
        R (Database.handleAll serve server calls).2 { tables := tables' } ∧
        Mirrors (l.handleAll calls).2 tables' orders inventory := by
  induction calls generalizing l tables orders inventory server with
  | nil => exact ⟨.nil, tables, orders, inventory, related, mirrors⟩
  | cons call rest ih =>
      obtain ⟨first, later⟩ := List.forall_mem_cons.mp legal
      have now : l.WithinRange := Ledger.handleAll_within within
      obtain ⟨reply, reply', l', tables', orders', inventory', memory, modelled, alike, next⟩ :=
        mirrors.handle keep call.here call.there now first
      obtain ⟨same, still⟩ := conforms.handle call.there first related
      rw [modelled] at same still
      simp only [Ledger.handleAll, memory] at within ⊢
      obtain ⟨replies, final⟩ := ih still next later within
      exact ⟨.cons (congrArg some (alike.trans same.symm)) replies, final⟩

end Course

/-- Started on nothing, the ledger in memory and the ledger in a database answer every
course of legal calls alike, and hold the same orders and the same stock and version of
each item. What the database holds is told from the state of `Server` that stands for
its own. -/
theorem Database.ledgers_agree {σ : Type} {keep : Timestamp → Timestamp}
    {serve : σ → Database.Statement → Database.Reply × σ} {R : σ → Server → Prop}
    (conforms : Database.Conforms keep serve R) {server : σ}
    (related : R server { tables := fun _ => [] }) (commitDelay : Nat)
    (calls : List DatedRequest) (legal : ∀ call ∈ calls, call.request.Legal)
    (within : (Ledger.handleAll { commitDelay } calls).2.WithinRange) :
    List.Forall₂ (fun reply reply' => reply.map LedgerReply.bare = some reply'.bare)
        (Ledger.handleAll { commitDelay } calls).1
        (Database.handleAll serve server calls).1 ∧
      ∃ tables orders inventory,
        R (Database.handleAll serve server calls).2 { tables } ∧
        Mirrors (Ledger.handleAll { commitDelay } calls).2 tables orders inventory := by
  have empty : Mirrors { commitDelay } (fun _ => []) [] [] :=
    ⟨⟨rfl, rfl⟩, Table.Lists.empty .., Table.Lists.empty .., rfl⟩
  exact empty.handleAll conforms related legal within

/-- An order is committed twice, a second one asks for too much, and the stock is written over an
old version. -/
def retriedOrder : List DatedRequest :=
  let order (id : Nat) (quantity : Int32) : Order :=
    .pending ⟨id⟩ "ann" "tea" quantity (.ofMillis 0)
  [.seed "tea" 5, .commit (order 1 2), .commit (order 1 2), .commit (order 2 4),
    .update "tea" 9 0, .update "tea" 9 1, .seed "tea" (-1), .inventory "tea", .findOrder ⟨1⟩,
    .countOrders "tea"].map fun request => ⟨request, .ofMillis 1, .ofMillis 2⟩

theorem Database.ledgers_agree_retriedOrder : ∃ tables orders inventory,
    Database.Conforms id (Server.serve id) Eq ∧
    (∀ call ∈ retriedOrder, call.request.Legal) ∧
    (Ledger.handleAll {} retriedOrder).2.WithinRange ∧
    List.Forall₂ (fun reply reply' => reply.map LedgerReply.bare = some reply'.bare)
        (Ledger.handleAll {} retriedOrder).1
        (Database.handleAll (Server.serve id) { tables := fun _ => [] } retriedOrder).1 ∧
    (Database.handleAll (Server.serve id) { tables := fun _ => [] } retriedOrder).2 = { tables } ∧
    Mirrors (Ledger.handleAll {} retriedOrder).2 tables orders inventory ∧
    (tables .inventory).map (fun row => (row .stock, row .version)) = [(.number 9, .number 2)] := by
  have legal : ∀ call ∈ retriedOrder, call.request.Legal := by
    have tea : NoZero "tea" := by decide
    have ann : NoZero "ann" := by decide
    simp [retriedOrder, LedgerRequest.Legal, Order.Placed, Order.place, Order.pending, tea, ann]
  have within : (Ledger.handleAll {} retriedOrder).2.WithinRange := by decide
  obtain ⟨replies, tables, orders, inventory, idle, mirrors⟩ :=
    Database.ledgers_agree (Server.serve_conforms id) rfl 0 retriedOrder legal within
  have stored : ((Database.handleAll (Server.serve id) { tables := fun _ => [] }
      retriedOrder).2.tables .inventory).map (fun row => (row .stock, row .version)) =
        [(.number 9, .number 2)] := by
    decide
  rw [idle] at stored
  exact ⟨tables, orders, inventory, Server.serve_conforms id, legal, within, replies, idle, mirrors,
    stored⟩

end FlashSale
