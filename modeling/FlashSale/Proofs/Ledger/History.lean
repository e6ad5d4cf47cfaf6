import FlashSale.Proofs.Ledger.Commit
import FlashSale.Proofs.Table

/-!
# The history of a ledger

Three calls change a ledger: seeding an item, committing an order and updating a row. A
`Mutation` is one of them, and `Mutated` lists what becomes of it and of the ledger. A call is
refused and changes nothing, creates a row, writes the row that it finds, or comes to grief.

A history notes each call with its time and its reply. `Told` says how the ledger is told
from it: a row from the calls for its item that went through, the orders from the commits that
did. `History.told` proves that the ledger of every history is told so, as long as no
version is at its limit.
-/

namespace FlashSale

/-- A call that may change the ledger. -/
inductive Mutation where
  | seed (item : String) (stock : Int32)
  | commit (order : Order)
  | update (item : String) (quantity version : Int32)
deriving DecidableEq

namespace Mutation

/-- The item whose row the call is about. -/
def item : Mutation → String
  | seed item _ => item
  | commit order => order.itemId
  | update item _ _ => item

/-- The order that is to be stored. -/
def order? : Mutation → Option Order
  | commit order => some order
  | _ => none

/-- The quantity that is written whatever the row has. -/
def written? : Mutation → Option Int32
  | seed _ stock => some stock
  | commit _ => none
  | update _ quantity _ => some quantity

/-- What is taken out of the row. -/
def taken : Mutation → Int
  | commit order => order.quantity.toInt
  | _ => 0

/-- The quantity that is left of the one in the row. A call that writes a quantity
leaves nothing of it. -/
def level (m : Mutation) (held : Int) : Int :=
  match m.written? with
  | some quantity => quantity.toInt
  | none => held - m.taken

/-- The orders once the call went through. -/
def file (orders : Table Uuid Order) : Mutation → Table Uuid Order
  | commit order => orders.insert order.id order
  | _ => orders

/-- The call goes through on a row, if the new quantity and version are words. This is
the guard of each of the three calls. -/
def Admitted (l : Ledger) (row : Inventory) : Mutation → Prop
  | seed _ stock => 0 ≤ stock.toInt
  | commit order => l.unavailable = false ∧ l.findOrder? order.id = none ∧
      order.quantity.toInt ≤ row.quantity.toInt
  | update _ quantity version => l.unavailable = false ∧ 0 ≤ quantity.toInt ∧
      row.version = version

/-- A call that goes through leaves a quantity that is not negative. An order takes no
more than there is. -/
theorem Admitted.level_nonneg {l : Ledger} {row : Inventory} {m : Mutation}
    (admitted : m.Admitted l row) : 0 ≤ m.level row.quantity.toInt := by
  cases m with
  | seed => exact admitted
  | commit => exact Int.sub_nonneg_of_le admitted.2.2
  | update => exact admitted.2.1

/-- An order that is committed is for a positive quantity. -/
def Positive : Mutation → Prop
  | commit order => 0 < order.quantity.toInt
  | _ => True

instance : DecidablePred Positive
  | seed .. => .isTrue trivial
  | commit order => inferInstanceAs (Decidable (0 < order.quantity.toInt))
  | update .. => .isTrue trivial

end Mutation

namespace Ledger

/-- Makes the call of the ledger at this moment. -/
def mutate (l : Ledger) (now : Timestamp) : Mutation → Reply Unit × Ledger
  | .seed item stock => l.seed now item stock
  | .commit order => l.commit now order
  | .update item quantity version => l.update now item quantity version

/-- What becomes of a call and of the ledger. In the last two cases the sum of a number
is out of its range; one of them has written before it is noticed. -/
inductive Mutated (l : Ledger) (now : Timestamp) (m : Mutation) : Reply Unit → Ledger → Prop where
  | refused {e} (unfit : ∀ row, l.inventory.get? m.item = some row → ¬ m.Admitted l row) :
      Mutated l now m (.answer (.error e)) l
  | created {stock} (seeds : m = .seed m.item stock) (nonneg : 0 ≤ stock.toInt)
      (absent : l.inventory.get? m.item = none) :
      Mutated l now m (.answer (.ok ()))
        { l with inventory := l.inventory.insert m.item (.fresh m.item stock now) }
  | wrote {row quantity version} (found : l.inventory.get? m.item = some row)
      (admitted : m.Admitted l row) (level : quantity.toInt = m.level row.quantity.toInt)
      (risen : version.toInt = row.version.toInt + 1) :
      Mutated l now m (.answer (.ok ()))
        { l with
          orders := m.file l.orders
          inventory := l.inventory.insert m.item { row with quantity, version, updatedAt := now } }
  /-- The new quantity is out of range. -/
  | outside {row} (found : l.inventory.get? m.item = some row) (admitted : m.Admitted l row)
      (unfit : word32? (m.level row.quantity.toInt) = none) : Mutated l now m .overflow l
  /-- The quantity was written when the version turned out to be at its limit. -/
  | torn {row quantity} (found : l.inventory.get? m.item = some row) (admitted : m.Admitted l row)
      (level : quantity.toInt = m.level row.quantity.toInt)
      (last : row.version.toInt = 2147483647) :
      Mutated l now m .overflow
        { l with inventory := l.inventory.insert m.item { row with quantity } }

variable {l l' : Ledger} {now : Timestamp} {m : Mutation} {reply : Reply Unit}

/-- The version of a row rises with its quantity, or it is at its limit and only the quantity is
written. -/
theorem writeQuantity_cases (l : Ledger) (item : String) (row : Inventory) (quantity : Int32)
    (now : Timestamp) :
    (∃ version : Int32, version.toInt = row.version.toInt + 1 ∧
      l.writeQuantity item row quantity now = (.answer (.ok ()), { l with
        inventory := l.inventory.insert item { row with quantity, version, updatedAt := now } })) ∨
    row.version.toInt = 2147483647 ∧
      l.writeQuantity item row quantity now =
        (.overflow, { l with inventory := l.inventory.insert item { row with quantity } }) := by
  unfold writeQuantity
  split
  · rename_i outside
    have lower := row.version.le_toInt
    have upper := row.version.toInt_lt
    have := word32?_eq_none_iff.mp outside
    exact .inr ⟨by omega, rfl⟩
  · rename_i version fits
    exact .inl ⟨version, word32?_eq_some_iff.mp fits, rfl⟩

/-- A call that writes the quantity of the row that it finds goes through or is torn. -/
theorem mutated_of_write {row : Inventory} {quantity : Int32}
    (found : l.inventory.get? m.item = some row) (admitted : m.Admitted l row)
    (level : quantity.toInt = m.level row.quantity.toInt) (files : m.file l.orders = l.orders) :
    Mutated l now m (l.writeQuantity m.item row quantity now).1
      (l.writeQuantity m.item row quantity now).2 := by
  obtain ⟨version, risen, eq⟩ | ⟨last, eq⟩ := l.writeQuantity_cases m.item row quantity now
  · rw [eq]
    rw [← files]
    exact .wrote found admitted level risen
  · rw [eq]
    exact .torn found admitted level last

theorem seed_mutated (l : Ledger) (now : Timestamp) (item : String) (stock : Int32) :
    Mutated l now (.seed item stock) (l.seed now item stock).1 (l.seed now item stock).2 := by
  unfold seed
  split
  · rename_i negative
    rw [Int32.lt_iff_toInt_lt] at negative
    exact .refused fun _ _ nonneg => absurd negative (Int.not_lt.mpr nonneg)
  rename_i nonneg
  rw [Int32.lt_iff_toInt_lt] at nonneg
  have nonneg : 0 ≤ stock.toInt := Int.not_lt.mp nonneg
  split
  · exact mutated_of_write (m := .seed item stock) ‹_› nonneg rfl rfl
  · exact .created (m := .seed item stock) rfl nonneg ‹_›

theorem update_mutated (l : Ledger) (now : Timestamp) (item : String) (quantity version : Int32) :
    Mutated l now (.update item quantity version) (l.update now item quantity version).1
      (l.update now item quantity version).2 := by
  unfold update
  split
  · rename_i negative
    rw [Int32.lt_iff_toInt_lt] at negative
    exact .refused fun _ _ admitted => absurd negative (Int.not_lt.mpr admitted.2.1)
  rename_i nonneg
  rw [Int32.lt_iff_toInt_lt] at nonneg
  have nonneg : 0 ≤ quantity.toInt := Int.not_lt.mp nonneg
  split
  · rename_i unavailable
    exact .refused fun _ _ admitted => by simp [admitted.1] at unavailable
  rename_i available
  split
  · rename_i absent
    exact .refused fun row found => by simp [Mutation.item, absent] at found
  rename_i row found
  split
  · rename_i current
    have admitted : Mutation.Admitted l row (.update item quantity version) :=
      ⟨by simpa using available, nonneg, current⟩
    exact mutated_of_write (m := .update item quantity version) found admitted rfl rfl
  · rename_i stale
    refine .refused fun other here admitted => stale ?_
    obtain rfl := Option.some.inj (found.symm.trans here)
    exact admitted.2.2

theorem commit_mutated (l : Ledger) (now : Timestamp) (order : Order) :
    Mutated l now (.commit order) (l.commit now order).1 (l.commit now order).2 := by
  unfold commit
  split
  · rename_i unavailable
    exact .refused fun _ _ admitted => by simp [admitted.1] at unavailable
  rename_i available
  split
  · rename_i known
    refine .refused fun _ _ admitted => ?_
    have absent : l.orders.get? order.id = none := admitted.2.1
    simp [Table.contains, absent] at known
  rename_i unknown
  split
  · rename_i absent
    exact .refused fun row found => by simp [Mutation.item, absent] at found
  rename_i row found
  split
  · rename_i short
    rw [Int32.lt_iff_toInt_lt] at short
    refine .refused fun other here admitted => ?_
    obtain rfl := Option.some.inj (found.symm.trans here)
    exact absurd short (Int.not_lt.mpr admitted.2.2)
  rename_i covered
  rw [Int32.lt_iff_toInt_lt] at covered
  have absent : l.findOrder? order.id = none := by
    simpa [Table.contains, findOrder?] using unknown
  have admitted : Mutation.Admitted l row (.commit order) :=
    ⟨by simpa using available, absent, Int.not_lt.mp covered⟩
  split
  · exact .outside (m := .commit order) found admitted ‹_›
  rename_i left fits
  have level := word32?_eq_some_iff.mp fits
  obtain ⟨version, risen, eq⟩ | ⟨last, eq⟩ := l.writeQuantity_cases order.itemId row left now
  · rw [eq]
    exact .wrote (m := .commit order) found admitted level risen
  · rw [eq]
    exact .torn (m := .commit order) found admitted level last

/-- Whatever becomes of a call is listed. What follows about ledgers goes by these
cases. -/
theorem mutate_mutated (l : Ledger) (now : Timestamp) (m : Mutation) :
    Mutated l now m (l.mutate now m).1 (l.mutate now m).2 := by
  cases m with
  | seed item stock => exact l.seed_mutated now item stock
  | commit order => exact l.commit_mutated now order
  | update item quantity version => exact l.update_mutated now item quantity version

/-- A row that was torn shows a version at its limit. So a ledger below the limit has no
torn row. -/
theorem torn_versions {item : String} {row : Inventory} {quantity : Int32}
    (last : row.version.toInt = 2147483647) : ¬ VersionsBelowLimit { l with
      inventory := l.inventory.insert item { row with quantity } } := by
  intro below
  have written := below item _ (Table.get?_insert_self ..)
  dsimp only at written
  omega

/-- Versions only rise, so that a ledger whose versions are below their limit was there
before the call too. -/
theorem Mutated.versions (mutated : Mutated l now m reply l') (below : l'.VersionsBelowLimit) :
    l.VersionsBelowLimit := by
  cases mutated with
  | refused => exact below
  | outside => exact below
  | created _ _ absent =>
      intro other row found
      have differs : other ≠ m.item := by
        rintro rfl
        cases absent.symm.trans found
      exact below other row ((Table.get?_insert_of_ne differs).trans found)
  | @wrote row quantity version found _ _ risen =>
      have written := below m.item _ (Table.get?_insert_self ..)
      intro other row' here
      by_cases same : other = m.item
      · subst same
        obtain rfl := Option.some.inj (found.symm.trans here)
        dsimp only at written
        omega
      · exact below other row' ((Table.get?_insert_of_ne same).trans here)
  | torn _ _ _ last => exact absurd below (torn_versions last)

/-- A call comes to grief only on an order that is not for a positive quantity or on a version at
its limit. -/
theorem Mutated.answers (mutated : Mutated l now m reply l') (positive : m.Positive)
    (below : l'.VersionsBelowLimit) (nonneg : ∀ row, l.inventory.get? m.item = some row →
      0 ≤ row.quantity.toInt) : reply ≠ .overflow := by
  rintro rfl
  cases mutated with
  | @outside row found admitted unfit =>
      have lower := nonneg row found
      have upper := row.quantity.toInt_lt
      have unfit := word32?_eq_none_iff.mp unfit
      cases m with
      | commit order =>
          change 0 < order.quantity.toInt at positive
          have covered := admitted.2.2
          simp only [Mutation.level, Mutation.written?, Mutation.taken] at unfit
          omega
      | seed _ stock =>
          have lower := stock.le_toInt
          have upper := stock.toInt_lt
          simp only [Mutation.level, Mutation.written?] at unfit
          omega
      | update _ quantity =>
          have lower := quantity.le_toInt
          have upper := quantity.toInt_lt
          simp only [Mutation.level, Mutation.written?] at unfit
          omega
  | torn _ _ _ last => exact absurd below (torn_versions last)

/-- What a call that was answered has done: nothing, if it was refused; else it has written its
row, which keeps the time of its creation, and stored its order, which is new. -/
inductive Effect (l : Ledger) (m : Mutation) (l' : Ledger) : Reply Unit → Prop where
  | refused {e} (same : l' = l) : Effect l m l' (.answer (.error e))
  | went {row} (written : l'.inventory.get? m.item = some row)
      (created : ∀ old, l.inventory.get? m.item = some old → row.createdAt = old.createdAt)
      (others : ∀ item, item ≠ m.item → l'.inventory.get? item = l.inventory.get? item)
      (orders : l'.orders = m.file l.orders)
      (new : ∀ order, m = .commit order → l.findOrder? order.id = none) :
      Effect l m l' (.answer (.ok ()))

theorem Mutated.effect (mutated : Mutated l now m reply l') (answered : reply ≠ .overflow) :
    Effect l m l' reply := by
  cases mutated with
  | refused => exact .refused rfl
  | outside => exact absurd rfl answered
  | torn => exact absurd rfl answered
  | created seeds _ absent =>
      refine .went (Table.get?_insert_self ..) ?_
        (fun _ other => Table.get?_insert_of_ne other) ?_ ?_
      · intro old found
        cases absent.symm.trans found
      · rw [seeds]
        rfl
      · intro order commits
        cases seeds.symm.trans commits
  | @wrote row _ _ found admitted =>
      refine .went (Table.get?_insert_self ..) ?_
        (fun _ other => Table.get?_insert_of_ne other) rfl ?_
      · intro old here
        obtain rfl := Option.some.inj (found.symm.trans here)
        rfl
      · rintro order rfl
        exact admitted.2.1

/-- A call that was made: when, and what it was told. Nothing else is known of it later.
-/
structure Entry where
  time : Timestamp
  call : Mutation
  reply : Reply Unit

namespace Entry

/-- The call went through. -/
def succeeded (e : Entry) : Bool :=
  match e.reply with
  | .answer (.ok ()) => true
  | _ => false

/-- The call went through and changed the row of the item. -/
def changed (item : String) (e : Entry) : Bool := e.succeeded && e.call.item = item

/-- The order that the call stored. -/
def stored? (e : Entry) : Option Order := if e.succeeded then e.call.order? else none

end Entry

/-- The calls that changed the row of the item. -/
def changes (item : String) (log : List Entry) : List Entry := log.filter (·.changed item)

/-- The orders that were stored, the first one first. -/
def stored (log : List Entry) : List Order := log.filterMap Entry.stored?

/-- A row is told from the calls that changed it. Its version counts them, and its
quantity is what they left. -/
structure RowTold (made : List Entry) (row : Inventory) : Prop where
  /-- The first call seeded the item and created the row; the others are counted. -/
  created : ∃ stock later, made = ⟨row.createdAt, .seed row.itemId stock, .ok ()⟩ :: later ∧
    row.version.toInt = later.length
  /-- What was written last, less what was taken since. -/
  quantity : ∃ front last since written, made = front ++ last :: since ∧
    last.call.written? = some written ∧ (∀ e ∈ since, e.call.written? = none) ∧
    row.quantity.toInt = written.toInt - (since.map fun e => e.call.taken).sum
  nonneg : 0 ≤ row.quantity.toInt

/-- The table has the orders of the list, each under its identifier. -/
def Files (orders : Table Uuid Order) (filed : List Order) : Prop :=
  ∀ id order, orders.get? id = some order ↔ order ∈ filed ∧ order.id = id

/-- A ledger is told from the calls that were made. The calls that did not go through do
not matter. -/
structure Told (l : Ledger) (log : List Entry) : Prop where
  blank : ∀ item, l.inventory.get? item = none → changes item log = []
  rows : ∀ item row, l.inventory.get? item = some row →
    row.itemId = item ∧ RowTold (changes item log) row
  orders : Files l.orders (stored log)
  once : ((stored log).map (·.id)).Nodup

/-- The ledgers that come of calls, the latest one last. -/
inductive History : List Entry → Ledger → Prop where
  | opened {blank : Ledger} (orders : blank.orders = ∅) (inventory : blank.inventory = ∅) :
      History [] blank
  | called {log} {before : Ledger} (history : History log before) (now : Timestamp)
      (m : Mutation) :
      History (log ++ [⟨now, m, (before.mutate now m).1⟩]) (before.mutate now m).2
  | switched {log} {before after : Ledger} (history : History log before)
      (orders : after.orders = before.orders) (inventory : after.inventory = before.inventory) :
      History log after

variable {log : List Entry} {item : String} {row : Inventory} {made : List Entry} {e : Entry}

theorem changes_append_of_not (other : e.changed item = false) :
    changes item (log ++ [e]) = changes item log := by
  simp [changes, other]

theorem changes_append_of_changed (changed : e.changed item = true) :
    changes item (log ++ [e]) = changes item log ++ [e] := by
  simp [changes, changed]

theorem stored_append (log : List Entry) (e : Entry) :
    stored (log ++ [e]) = stored log ++ e.stored?.toList := by
  unfold stored
  rw [List.filterMap_append]
  cases order : e.stored? <;> simp [order]

/-- Nothing is to be told of a call that did not go through. It changed neither a row
nor an order. -/
theorem Told.skip (told : l.Told log) (failed : e.succeeded = false) :
    l.Told (log ++ [e]) where
  blank item absent :=
    (changes_append_of_not (by simp [Entry.changed, failed])).trans (told.blank item absent)
  rows item row found := by
    rw [changes_append_of_not (by simp [Entry.changed, failed])]
    exact told.rows item row found
  orders := by simpa [stored_append, Entry.stored?, failed] using told.orders
  once := by simpa [stored_append, Entry.stored?, failed] using told.once

/-- A call that writes a row adds to what the row is told from. Its version rises by one
with it. -/
theorem RowTold.write (told : RowTold made row) {quantity version : Int32}
    (level : quantity.toInt = e.call.level row.quantity.toInt)
    (risen : version.toInt = row.version.toInt + 1) (nonneg : 0 ≤ quantity.toInt) :
    RowTold (made ++ [e]) { row with quantity, version, updatedAt := e.time } where
  created := by
    obtain ⟨stock, later, rfl, count⟩ := told.created
    refine ⟨stock, later ++ [e], rfl, ?_⟩
    rw [List.length_append, List.length_singleton, risen, count]
    omega
  quantity := by
    cases writes : e.call.written? with
    | some written =>
        refine ⟨made, e, [], written, rfl, writes, by simp, ?_⟩
        simpa [Mutation.level, writes] using level
    | none =>
        obtain ⟨front, last, since, written, rfl, wrote, quiet, held⟩ := told.quantity
        refine ⟨front, last, since ++ [e], written, by simp, wrote, ?_, ?_⟩
        · simpa [or_imp, forall_and, writes] using quiet
        · simp only [Mutation.level, writes] at level
          rw [level, held, List.map_append, List.sum_append, List.map_singleton, List.sum_singleton]
          omega
  nonneg := nonneg

theorem Files.insert {orders : Table Uuid Order} {filed : List Order} (files : Files orders filed)
    {new : Order} (absent : orders.get? new.id = none) :
    Files (orders.insert new.id new) (filed ++ [new]) := by
  intro id order
  rw [Table.get?_insert, List.mem_append, List.mem_singleton]
  split
  · rename_i same
    subst same
    constructor
    · rintro ⟨⟩
      exact ⟨.inr rfl, rfl⟩
    · rintro ⟨old | rfl, named⟩
      · cases absent.symm.trans ((files _ order).mpr ⟨old, named⟩)
      · rfl
  · rename_i other
    rw [files id order]
    constructor
    · rintro ⟨old, named⟩
      exact ⟨.inl old, named⟩
    · rintro ⟨old | rfl, named⟩
      · exact ⟨old, named⟩
      · exact absurd named.symm other

/-- A call that goes through is told of in the row of its item, and in its order. All
other rows are told as before. -/
theorem Told.add (told : l.Told log) (went : e.succeeded = true)
    (effect : l.Effect e.call l' (.answer (.ok ())))
    (next : ∀ row, l'.inventory.get? e.call.item = some row →
      row.itemId = e.call.item ∧ RowTold (changes e.call.item log ++ [e]) row) :
    l'.Told (log ++ [e]) := by
  obtain _ | ⟨written, -, others, orders, new⟩ := effect
  constructor
  case blank =>
    intro item absent
    have other : item ≠ e.call.item := by
      rintro rfl
      cases absent.symm.trans written
    rw [changes_append_of_not (by simp [Entry.changed, other.symm])]
    exact told.blank item ((others item other).symm.trans absent)
  case rows =>
    intro item row found
    by_cases same : item = e.call.item
    · subst same
      rw [changes_append_of_changed (by simp [Entry.changed, went])]
      exact next row found
    · rw [changes_append_of_not (by simp [Entry.changed, Ne.symm same])]
      exact told.rows item row ((others item same).symm.trans found)
  all_goals rw [stored_append, Entry.stored?, if_pos went]
  case orders =>
    rw [orders]
    cases call : e.call with
    | commit order => exact told.orders.insert (new order call)
    | seed => simpa [Mutation.file, Mutation.order?] using told.orders
    | update => simpa [Mutation.file, Mutation.order?] using told.orders
  case once =>
    cases call : e.call with
    | commit order =>
        have fresh : order.id ∉ (stored log).map (·.id) := by
          intro member
          obtain ⟨old, stored, same⟩ := List.mem_map.mp member
          cases (new order call).symm.trans ((told.orders _ old).mpr ⟨stored, same⟩)
        simpa [Mutation.order?, List.nodup_append, or_imp, forall_and] using
          ⟨told.once, fun old member same => fresh (same ▸ List.mem_map_of_mem member)⟩
    | seed => simpa [Mutation.order?] using told.once
    | update => simpa [Mutation.order?] using told.once

/-- One call more is told of, whatever became of it. This is the step of which
`History.told` is the run. -/
theorem Mutated.told (mutated : Mutated l now m reply l') (told : l.Told log)
    (below : l'.VersionsBelowLimit) : l'.Told (log ++ [⟨now, m, reply⟩]) := by
  have effect := mutated.effect
  cases mutated with
  | refused => exact told.skip rfl
  | outside => exact told.skip rfl
  | torn _ _ _ last => exact absurd below (torn_versions last)
  | @created stock seeds nonneg absent =>
      refine told.add rfl (effect nofun) fun row here => ?_
      obtain rfl := Option.some.inj ((Table.get?_insert_self ..).symm.trans here)
      refine ⟨rfl, ?_⟩
      rw [told.blank m.item absent]
      refine ⟨⟨stock, [], by rw [seeds]; rfl, rfl⟩, ?_, nonneg⟩
      refine ⟨[], _, [], stock, rfl, by rw [seeds]; rfl, by simp, ?_⟩
      exact (Int.sub_zero _).symm
  | wrote found admitted level risen =>
      obtain ⟨named, before⟩ := told.rows m.item _ found
      refine told.add rfl (effect nofun) fun row here => ?_
      obtain rfl := Option.some.inj ((Table.get?_insert_self ..).symm.trans here)
      have enough := admitted.level_nonneg
      rw [← level] at enough
      exact ⟨named, before.write (e := ⟨now, m, .answer (.ok ())⟩) level risen enough⟩

/-- The ledger of every history is told from it. The induction is on the history, and
switches change nothing. -/
theorem History.told (history : History log l) (below : l.VersionsBelowLimit) : l.Told log := by
  induction history with
  | opened orders inventory =>
      refine ⟨fun _ _ => rfl, fun item row found => ?_, fun id order => ?_, .nil⟩
      · rw [inventory] at found
        cases found
      · rw [orders]
        exact ⟨nofun, fun none => nomatch none.1⟩
  | @called _ before _ now m ih =>
      have mutated := before.mutate_mutated now m
      exact mutated.told (ih (mutated.versions below)) below
  | switched _ orders inventory ih =>
      rw [VersionsBelowLimit, inventory] at below
      obtain ⟨blank, rows, files, once⟩ := ih below
      exact ⟨inventory ▸ blank, inventory ▸ rows, orders ▸ files, once⟩

end Ledger

end FlashSale
