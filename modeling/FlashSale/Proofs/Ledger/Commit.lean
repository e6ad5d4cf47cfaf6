import FlashSale.Ledger

/-!
# What calls do to the ledger

A commit that is answered with success stored an order under an identifier that was
free and took its quantity out of a row that covered it; one that is refused changed
nothing. No call forgets or changes an order. No call lowers a version either, so
that a ledger whose versions are below their limit never had one at the limit.
-/

namespace FlashSale.Ledger

/-- No row has reached the greatest version. Then no call is going to fail halfway for
want of a next one. -/
def VersionsBelowLimit (l : Ledger) : Prop :=
  ∀ item row, l.inventory.get? item = some row → row.version.toInt < 2147483647

instance (l : Ledger) : Decidable l.VersionsBelowLimit :=
  decidable_of_iff (∀ e ∈ l.inventory.entries, e.2.version.toInt < 2147483647)
    ⟨fun h item row found => h (item, row) (Table.get?_eq_some_iff.mp found),
      fun h e he => h e.1 e.2 (Table.get?_eq_some_iff.mpr he)⟩

/-- Every order of the first ledger is in the second one, unchanged. -/
def Keeps (l l' : Ledger) : Prop :=
  ∀ id order, l.findOrder? id = some order → l'.findOrder? id = some order

theorem Keeps.refl (l : Ledger) : l.Keeps l := fun _ _ h => h

theorem Keeps.of_orders_eq {l l' : Ledger} (h : l'.orders = l.orders) : l.Keeps l' := by
  intro id order found
  rwa [findOrder?, h]

variable {l l' : Ledger} {now : Timestamp}

@[simp] theorem writeQuantity_orders (l : Ledger) (item : String) (row : Inventory)
    (quantity : Int32) (now : Timestamp) :
    (l.writeQuantity item row quantity now).2.orders = l.orders := by
  unfold writeQuantity
  split <;> rfl

/-- A quantity is written together with the next version and the moment, and nothing
else is touched. -/
theorem writeQuantity_eq_answer {item : String} {row : Inventory} {quantity : Int32}
    {reply : Except StoreError Unit}
    (h : l.writeQuantity item row quantity now = (.answer reply, l')) :
    reply = .ok () ∧ ∃ version : Int32, version.toInt = row.version.toInt + 1 ∧
      l' = { l with inventory :=
        l.inventory.insert item { row with quantity, version, updatedAt := now } } := by
  unfold writeQuantity at h
  split at h
  · cases h
  · rename_i version fits
    cases h
    exact ⟨rfl, version, word32?_eq_some_iff.mp fits, rfl⟩

/-- A version fails to rise only where it is at its limit, and stays there. -/
theorem writeQuantity_eq_overflow {item : String} {row : Inventory} {quantity : Int32}
    (h : l.writeQuantity item row quantity now = (.overflow, l')) : ¬ l'.VersionsBelowLimit := by
  intro below
  unfold writeQuantity at h
  split at h
  · rename_i outside
    cases h
    have written := below item { row with quantity } (by simp)
    have lower := row.version.le_toInt
    have := word32?_eq_none_iff.mp outside
    dsimp only at written
    omega
  · cases h

/-- A ledger whose versions are below their limit after a write had them below it
before. -/
theorem writeQuantity_versions {item : String} {row : Inventory} {quantity : Int32}
    (found : l.inventory.get? item = some row)
    (below : (l.writeQuantity item row quantity now).2.VersionsBelowLimit) :
    l.VersionsBelowLimit := by
  rcases eq : l.writeQuantity item row quantity now with ⟨reply, l'⟩
  rw [eq] at below
  cases reply with
  | overflow => exact absurd below (writeQuantity_eq_overflow eq)
  | answer reply =>
      obtain ⟨-, version, risen, rfl⟩ := writeQuantity_eq_answer eq
      intro other row' found'
      by_cases same : other = item
      · subst same
        obtain rfl := Option.some.inj (found.symm.trans found')
        have written := below other { row with quantity, version, updatedAt := now } (by simp)
        dsimp only at written
        omega
      · exact below other row' (by simp [Table.get?_insert, same, found'])

/-- A commit is refused, or finds a row that covers the order; then it comes to grief on
the new quantity or on the version, or it goes through. All that is said of commits is
told from this list. -/
theorem commit_cases (l : Ledger) (now : Timestamp) (order : Order) :
    (∃ e, l.commit now order = (.answer (.error e), l)) ∨
    ∃ row : Inventory, l.inventory.get? order.itemId = some row ∧
      l.findOrder? order.id = none ∧ order.quantity.toInt ≤ row.quantity.toInt ∧
      ((word32? (row.quantity.toInt - order.quantity.toInt) = none ∧
          l.commit now order = (.overflow, l)) ∨
        ∃ left : Int32, left.toInt = row.quantity.toInt - order.quantity.toInt ∧
          ((∃ l', l.writeQuantity order.itemId row left now = (.overflow, l') ∧
              l.commit now order = (.overflow, l')) ∨
            ∃ l', l.writeQuantity order.itemId row left now = (.answer (.ok ()), l') ∧
              l.commit now order = (.answer (.ok ()),
                { l' with orders := l'.orders.insert order.id order }))) := by
  unfold commit
  split
  · exact .inl ⟨_, rfl⟩
  split
  · exact .inl ⟨_, rfl⟩
  rename_i absent
  split
  · exact .inl ⟨_, rfl⟩
  rename_i row found
  split
  · exact .inl ⟨_, rfl⟩
  rename_i covered
  rw [Int32.lt_iff_toInt_lt] at covered
  refine .inr ⟨row, found, by simpa [Table.contains, findOrder?] using absent, by omega, ?_⟩
  split
  · rename_i outside
    exact .inl ⟨outside, rfl⟩
  rename_i left fits
  refine .inr ⟨left, word32?_eq_some_iff.mp fits, ?_⟩
  rcases eq : l.writeQuantity order.itemId row left now with ⟨reply, l'⟩
  cases reply with
  | overflow => exact .inl ⟨l', rfl, rfl⟩
  | answer reply =>
      obtain ⟨rfl, -⟩ := writeQuantity_eq_answer eq
      exact .inr ⟨l', rfl, rfl⟩

/-- A commit that is answered with success took the quantity out of a row that covered
it, and stored the order under an identifier that was free. -/
theorem commit_eq_ok {order : Order} (h : l.commit now order = (.answer (.ok ()), l')) :
    l.findOrder? order.id = none ∧
      ∃ (row : Inventory) (left version : Int32),
        l.inventory.get? order.itemId = some row ∧
        order.quantity.toInt ≤ row.quantity.toInt ∧
        left.toInt = row.quantity.toInt - order.quantity.toInt ∧
        l' = { l with
          orders := l.orders.insert order.id order
          inventory := l.inventory.insert order.itemId
            { row with quantity := left, version, updatedAt := now } } := by
  obtain ⟨e, eq⟩ | ⟨row, found, absent, covered, ⟨-, eq⟩ | ⟨left, rest, ⟨_, -, eq⟩ | ⟨_, write, eq⟩⟩⟩ :=
    l.commit_cases now order
  · cases eq.symm.trans h
  · cases eq.symm.trans h
  · cases eq.symm.trans h
  · obtain ⟨-, version, -, rfl⟩ := writeQuantity_eq_answer write
    cases eq.symm.trans h
    exact ⟨absent, row, left, version, found, covered, rest, rfl⟩

theorem commit_eq_error {order : Order} {e : StoreError}
    (h : l.commit now order = (.answer (.error e), l')) : l' = l := by
  obtain ⟨e, eq⟩ | ⟨row, -, -, -, ⟨-, eq⟩ | ⟨left, -, ⟨_, -, eq⟩ | ⟨_, -, eq⟩⟩⟩ :=
    l.commit_cases now order <;> cases eq.symm.trans h
  rfl

/-- The commit of an order for a positive quantity comes to grief only on a version at
its limit, since what is left is not below zero. -/
theorem commit_eq_overflow {order : Order} (positive : 0 < order.quantity.toInt)
    (h : l.commit now order = (.overflow, l')) : ¬ l'.VersionsBelowLimit := by
  obtain ⟨e, eq⟩ | ⟨row, -, -, covered, ⟨outside, eq⟩ | ⟨left, -, ⟨_, write, eq⟩ | ⟨_, -, eq⟩⟩⟩ :=
    l.commit_cases now order
  · cases eq.symm.trans h
  · have upper := row.quantity.toInt_lt
    have := word32?_eq_none_iff.mp outside
    omega
  · cases eq.symm.trans h
    exact writeQuantity_eq_overflow write
  · cases eq.symm.trans h

/-- Nothing stands in the way of an order that is new and covered by a row. -/
theorem commit_ok {order : Order} {row : Inventory} (available : l.unavailable = false)
    (absent : l.findOrder? order.id = none) (found : l.inventory.get? order.itemId = some row)
    (positive : 0 < order.quantity.toInt) (covered : order.quantity.toInt ≤ row.quantity.toInt)
    (below : row.version.toInt < 2147483647) :
    ∃ l', l.commit now order = (.answer (.ok ()), l') := by
  have upper := row.quantity.toInt_lt
  have lower := row.version.le_toInt
  obtain ⟨left, fits⟩ := exists_word32? (n := row.quantity.toInt - order.quantity.toInt)
    (by omega) (by omega)
  obtain ⟨version, risen⟩ := exists_word32? (n := row.version.toInt + 1) (by omega) (by omega)
  have enough : ¬ row.quantity < order.quantity := by
    rw [Int32.lt_iff_toInt_lt]
    omega
  have unknown : l.orders.contains order.id = false := by
    simpa [Table.contains, findOrder?] using absent
  simp [commit, available, unknown, found, enough, fits, writeQuantity, risen, Reply.ok]

variable {order : Order} {reply : Reply Unit}

/-- Whatever a commit replies, no order of the ledger is forgotten or changed. A new one
is stored beside them. -/
theorem commit_keeps (h : l.commit now order = (reply, l')) : l.Keeps l' := by
  obtain ⟨e, eq⟩ | ⟨row, -, absent, -, ⟨-, eq⟩ | ⟨left, -, ⟨_, write, eq⟩ | ⟨written, write, eq⟩⟩⟩ :=
    l.commit_cases now order <;> cases eq.symm.trans h
  · exact .refl l
  · exact .refl l
  all_goals have orders := congrArg (fun p => p.2.orders) write
  all_goals simp only [writeQuantity_orders] at orders
  · exact .of_orders_eq orders.symm
  · intro id old found
    have other : id ≠ order.id := by
      rintro rfl
      rw [absent] at found
      cases found
    rw [findOrder?, Table.get?_insert, if_neg other, ← orders]
    exact found

/-- Versions only rise, so that whoever sees them below their limit afterwards knows
that no write came to grief. -/
theorem commit_versions (h : l.commit now order = (reply, l')) (below : l'.VersionsBelowLimit) :
    l.VersionsBelowLimit := by
  obtain ⟨e, eq⟩ | ⟨row, found, -, -, ⟨-, eq⟩ | ⟨left, -, ⟨_, write, eq⟩ | ⟨written, write, eq⟩⟩⟩ :=
    l.commit_cases now order <;> cases eq.symm.trans h
  · exact below
  · exact below
  · exact absurd below (writeQuantity_eq_overflow write)
  · have kept : (l.writeQuantity order.itemId row left now).2.VersionsBelowLimit := by
      rw [write]
      exact below
    exact writeQuantity_versions found kept

theorem seed_orders (l : Ledger) (now : Timestamp) (item : String) (stock : Int32) :
    (l.seed now item stock).2.orders = l.orders := by
  unfold seed
  split
  · rfl
  split
  · exact writeQuantity_orders ..
  · rfl

theorem seed_versions {item : String} {stock : Int32}
    (below : (l.seed now item stock).2.VersionsBelowLimit) : l.VersionsBelowLimit := by
  unfold seed at below
  split at below
  · exact below
  split at below
  · rename_i row found
    exact writeQuantity_versions found below
  · rename_i unknown
    intro other row found
    have differs : other ≠ item := by
      rintro rfl
      rw [unknown] at found
      cases found
    exact below other row (by simp [Table.get?_insert, differs, found])

theorem update_orders (l : Ledger) (now : Timestamp) (item : String) (quantity version : Int32) :
    (l.update now item quantity version).2.orders = l.orders := by
  unfold update
  split
  · rfl
  split
  · rfl
  split
  · rfl
  split
  · exact writeQuantity_orders ..
  · rfl

theorem update_versions {item : String} {quantity version : Int32}
    (below : (l.update now item quantity version).2.VersionsBelowLimit) :
    l.VersionsBelowLimit := by
  unfold update at below
  split at below
  · exact below
  split at below
  · exact below
  split at below
  · exact below
  rename_i row found
  split at below
  · exact writeQuantity_versions found below
  · exact below

theorem seed_keeps (l : Ledger) (now : Timestamp) (item : String) (stock : Int32) :
    l.Keeps (l.seed now item stock).2 := .of_orders_eq (l.seed_orders now item stock)

theorem update_keeps (l : Ledger) (now : Timestamp) (item : String) (quantity version : Int32) :
    l.Keeps (l.update now item quantity version).2 :=
  .of_orders_eq (l.update_orders now item quantity version)

/-- The two ledgers have the same switch and the same delay. Only the outside world sets
these. -/
structure SameSettings (l l' : Ledger) : Prop where
  unavailable : l'.unavailable = l.unavailable
  commitDelay : l'.commitDelay = l.commitDelay

theorem writeQuantity_settings (l : Ledger) (item : String) (row : Inventory) (quantity : Int32)
    (now : Timestamp) : SameSettings l (l.writeQuantity item row quantity now).2 := by
  rw [writeQuantity]
  split <;> exact ⟨rfl, rfl⟩

theorem commit_settings (h : l.commit now order = (reply, l')) : SameSettings l l' := by
  obtain ⟨e, eq⟩ | ⟨row, -, -, -, ⟨-, eq⟩ | ⟨left, -, ⟨_, write, eq⟩ | ⟨written, write, eq⟩⟩⟩ :=
    l.commit_cases now order <;> cases eq.symm.trans h
  · exact ⟨rfl, rfl⟩
  · exact ⟨rfl, rfl⟩
  all_goals have kept := l.writeQuantity_settings order.itemId row left now
  all_goals rw [write] at kept
  · exact kept
  · exact ⟨kept.unavailable, kept.commitDelay⟩

theorem seed_settings (l : Ledger) (now : Timestamp) (item : String) (stock : Int32) :
    SameSettings l (l.seed now item stock).2 := by
  rw [seed]
  split
  · exact ⟨rfl, rfl⟩
  split
  · exact l.writeQuantity_settings ..
  · exact ⟨rfl, rfl⟩

theorem update_settings (l : Ledger) (now : Timestamp) (item : String) (quantity version : Int32) :
    SameSettings l (l.update now item quantity version).2 := by
  rw [update]
  split
  · exact ⟨rfl, rfl⟩
  split
  · exact ⟨rfl, rfl⟩
  split
  · exact ⟨rfl, rfl⟩
  split
  · exact l.writeQuantity_settings ..
  · exact ⟨rfl, rfl⟩

/-- What tasks do to a ledger with one call: nothing, a commit or an update. -/
inductive Called (l : Ledger) (now : Timestamp) : Ledger → Prop where
  | none : Called l now l
  | commit {order reply next} (h : l.commit now order = (reply, next)) : Called l now next
  | update {item quantity version} : Called l now (l.update now item quantity version).2

theorem Called.versions (called : Called l now l') (below : l'.VersionsBelowLimit) :
    l.VersionsBelowLimit := by
  cases called with
  | none => exact below
  | commit h => exact commit_versions h below
  | update => exact update_versions below

/-- No task makes the ledger forget or change an order. -/
theorem Called.keeps (called : Called l now l') : l.Keeps l' := by
  cases called with
  | none => exact .refl l
  | commit h => exact commit_keeps h
  | update => exact l.update_keeps _ _ _ _

theorem Called.settings (called : Called l now l') : SameSettings l l' := by
  cases called with
  | none => exact ⟨rfl, rfl⟩
  | commit h => exact commit_settings h
  | update => exact l.update_settings ..

end FlashSale.Ledger
