import FlashSale.Proofs.Ledger.Commit

/-!
# What the ledger replies

The reply of each call and the ledger after it, told from what the ledger holds. The ledger
can be reached, and the versions of its rows are below their limit, so that no call comes
to grief.
-/

namespace FlashSale.Ledger

variable {l : Ledger} {now : Timestamp} {item : String} {row : Inventory}
  {quantity stock version : Int32} {order : Order}

/-- Writing a quantity raises the version by one, unless it is at its limit. All the
calls that go through on a row end in this. -/
theorem writeQuantity_of_below (l : Ledger) (item : String) (quantity : Int32) (now : Timestamp)
    (below : row.version.toInt < 2147483647) :
    ∃ version : Int32, version.toInt = row.version.toInt + 1 ∧
      l.writeQuantity item row quantity now = (.ok (), { l with
        inventory :=
          l.inventory.insert item { row with quantity, version, updatedAt := now } }) := by
  have lower := row.version.le_toInt
  obtain ⟨version, fits⟩ := exists_word32? (n := row.version.toInt + 1) (by omega) (by omega)
  refine ⟨version, word32?_eq_some_iff.mp fits, ?_⟩
  simp only [writeQuantity, fits]

theorem seed_of_negative (negative : stock < 0) :
    l.seed now item stock = (.error (.invalidStock stock), l) := if_pos negative

/-- Seeding an item without a row creates the row, with the quantity and the version
zero. -/
theorem seed_of_absent (nonneg : ¬ stock < 0) (absent : l.inventory.get? item = none) :
    l.seed now item stock =
      (.ok (), { l with inventory := l.inventory.insert item (.fresh item stock now) }) := by
  simp only [seed, if_neg nonneg, absent]

variable (now) in
/-- Seeding an item again overwrites its quantity. The row keeps the time of its
creation. -/
theorem seed_of_found (nonneg : ¬ stock < 0) (found : l.inventory.get? item = some row)
    (below : row.version.toInt < 2147483647) :
    ∃ version : Int32, version.toInt = row.version.toInt + 1 ∧
      l.seed now item stock = (.ok (), { l with
        inventory :=
          l.inventory.insert item { row with quantity := stock, version, updatedAt := now } }) := by
  simp only [seed, if_neg nonneg, found]
  exact l.writeQuantity_of_below item stock now below

theorem commit_of_known (available : l.unavailable = false) {old : Order}
    (known : l.orders.get? order.id = some old) :
    l.commit now order = (.error (.duplicateOrder order.id), l) := by
  simp only [commit, available, Table.contains, known, Option.isSome, Bool.false_eq_true, if_false,
    if_true]

/-- An order that the row does not cover is told of a conflict. So is one for an item
without a row. -/
theorem commit_of_short (available : l.unavailable = false)
    (unknown : l.orders.get? order.id = none)
    (short : ∀ row, l.inventory.get? order.itemId = some row →
      row.quantity.toInt < order.quantity.toInt) :
    l.commit now order = (.error .optimisticLockConflict, l) := by
  simp only [commit, available, Table.contains, unknown, Option.isSome, Bool.false_eq_true,
    if_false]
  split
  · rfl
  · rename_i row found
    rw [if_pos (Int32.lt_iff_toInt_lt.mpr (short row found))]

variable (now) in
/-- An order that is new and covered is stored, and its quantity is taken out of the
row. -/
theorem commit_of_covered (available : l.unavailable = false)
    (unknown : l.orders.get? order.id = none)
    (found : l.inventory.get? order.itemId = some row) (positive : 0 < order.quantity.toInt)
    (covered : order.quantity.toInt ≤ row.quantity.toInt)
    (below : row.version.toInt < 2147483647) :
    ∃ left version : Int32, left.toInt = row.quantity.toInt - order.quantity.toInt ∧
      version.toInt = row.version.toInt + 1 ∧
      l.commit now order = (.ok (), { l with
        orders := l.orders.insert order.id order
        inventory := l.inventory.insert order.itemId
          { row with quantity := left, version, updatedAt := now } }) := by
  have upper := row.quantity.toInt_lt
  obtain ⟨left, fits⟩ := exists_word32? (n := row.quantity.toInt - order.quantity.toInt)
    (by omega) (by omega)
  have enough : ¬ row.quantity < order.quantity := by
    rw [Int32.lt_iff_toInt_lt]
    omega
  obtain ⟨version, risen, wrote⟩ := l.writeQuantity_of_below order.itemId left now below
  refine ⟨left, version, word32?_eq_some_iff.mp fits, risen, ?_⟩
  simp only [commit, available, Table.contains, unknown, Option.isSome, found, if_neg enough, fits,
    wrote, Bool.false_eq_true, if_false, Reply.ok]

theorem update_of_negative (negative : quantity < 0) :
    l.update now item quantity version = (.error (.invalidStock quantity), l) := if_pos negative

theorem update_of_stale (available : l.unavailable = false) (nonneg : ¬ quantity < 0)
    (stale : ∀ row, l.inventory.get? item = some row → row.version ≠ version) :
    l.update now item quantity version = (.error .optimisticLockConflict, l) := by
  simp only [update, if_neg nonneg, available, Bool.false_eq_true, if_false]
  split
  · rfl
  · rename_i row found
    rw [if_neg (stale row found)]

variable (now) in
theorem update_of_current (available : l.unavailable = false) (nonneg : ¬ quantity < 0)
    (found : l.inventory.get? item = some row) (below : row.version.toInt < 2147483647) :
    ∃ version : Int32, version.toInt = row.version.toInt + 1 ∧
      l.update now item quantity row.version = (.ok (), { l with
        inventory :=
          l.inventory.insert item { row with quantity, version, updatedAt := now } }) := by
  obtain ⟨next, risen, wrote⟩ := l.writeQuantity_of_below item quantity now below
  refine ⟨next, risen, Eq.trans ?_ wrote⟩
  simp only [update, if_neg nonneg, available, found, Bool.false_eq_true, if_false, if_true]

theorem inventory?_of_available (available : l.unavailable = false) :
    l.inventory? item = .ok (l.inventory.get? item) := by
  simp only [inventory?, available, Bool.false_eq_true, if_false]

end FlashSale.Ledger
