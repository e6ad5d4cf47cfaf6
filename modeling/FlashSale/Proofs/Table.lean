import FlashSale.Table
import Mathlib.Algebra.Order.BigOperators.Group.List
import Mathlib.Algebra.Order.Ring.Int
import Mathlib.Data.List.Nodup

/-!
# What a table holds altogether

An entry can be split off from the others, whatever its place in the table. A sum over
all entries then changes with one entry as one expects, and so does the number of values
that pass a test.

A table may be kept as a list of its values, in any order and up to what matters of them.
`Lists` says that a list is such a copy, and how the copy is changed along with the table.
-/

namespace FlashSale.Table

variable {κ υ : Type}

/-- The sum of an amount over all values. Amounts are integers, so that differences need
no care. -/
def sum (t : Table κ υ) (f : υ → Int) : Int := (t.entries.map fun e => f e.2).sum

@[simp] theorem sum_empty (f : υ → Int) : (∅ : Table κ υ).sum f = 0 := rfl

theorem sum_add (t : Table κ υ) (f g : υ → Int) :
    t.sum (fun v => f v + g v) = t.sum f + t.sum g := by
  unfold sum
  induction t.entries with
  | nil => rfl
  | cons e rest ih =>
      simp only [List.map_cons, List.sum_cons, ih]
      omega

/-- How many values pass the test. -/
def count (t : Table κ υ) (p : υ → Bool) : Nat := t.entries.countP fun e => p e.2

@[simp] theorem count_empty (p : υ → Bool) : (∅ : Table κ υ).count p = 0 := rfl

theorem count_mono (t : Table κ υ) {p q : υ → Bool} (implies : ∀ v, p v = true → q v = true) :
    t.count p ≤ t.count q :=
  List.countP_mono_left fun e _ => implies e.2

variable [DecidableEq κ]

theorem get?_insert_of_ne {t : Table κ υ} {k k' : κ} {v : υ} (h : k' ≠ k) :
    (t.insert k v).get? k' = t.get? k' := (get?_insert ..).trans (if_neg h)

theorem get?_erase_of_ne {t : Table κ υ} {k k' : κ} (h : k' ≠ k) :
    (t.erase k).get? k' = t.get? k' := (get?_erase ..).trans (if_neg h)

@[simp] theorem get?_erase_self (t : Table κ υ) (k : κ) : (t.erase k).get? k = none :=
  (get?_erase ..).trans (if_pos rfl)

theorem get?_erase_eq_none {t : Table κ υ} {k k' : κ} (h : t.get? k' = none) :
    (t.erase k).get? k' = none := by
  rw [get?_erase, h, ite_self]

/-- An entry can be split off from the others, whatever its place in the table. -/
theorem entries_perm {t : Table κ υ} {k : κ} {v : υ} (h : t.get? k = some v) :
    t.entries.Perm ((k, v) :: (t.erase k).entries) := by
  have fresh : (k, v) ∉ (t.erase k).entries := by simp [erase, filter]
  refine (List.perm_ext_iff_of_nodup t.nodup.of_map
    (List.nodup_cons.mpr ⟨fresh, (t.erase k).nodup.of_map⟩)).mpr fun ⟨k', v'⟩ => ?_
  rw [List.mem_cons, ← get?_eq_some_iff, ← get?_eq_some_iff, get?_erase, Prod.mk.injEq]
  by_cases same : k' = k
  · subst same
    simp [h, eq_comm]
  · simp [same]

theorem erase_of_get?_eq_none {t : Table κ υ} {k : κ} (h : t.get? k = none) : t.erase k = t := by
  have kept : (t.erase k).entries = t.entries := by
    refine List.filter_eq_self.mpr fun e he => ?_
    have differs : e.1 ≠ k := by
      rintro rfl
      rw [get?_eq_some_iff.mpr he] at h
      cases h
    simpa using differs
  cases t
  exact Table.mk.injEq .. ▸ kept

theorem erase_insert (t : Table κ υ) (k : κ) (v : υ) : (t.insert k v).erase k = t.erase k := by
  simp [insert, erase, filter]

theorem insert_insert (t : Table κ υ) (k : κ) (v v' : υ) :
    (t.insert k v).insert k v' = t.insert k v' := by
  unfold insert
  simp [erase, filter]

/-- A sum changes with the entry that is erased. -/
theorem sum_erase {t : Table κ υ} {k : κ} {v : υ} (h : t.get? k = some v) (f : υ → Int) :
    (t.erase k).sum f = t.sum f - f v := by
  have whole : t.sum f = f v + (t.erase k).sum f := by
    simpa [sum] using ((entries_perm h).map fun e => f e.2).sum_eq
  omega

/-- Writing over a value takes the old amount from the sum and adds the new one. -/
theorem sum_insert {t : Table κ υ} {k : κ} {old : υ} (h : t.get? k = some old) (v : υ)
    (f : υ → Int) : (t.insert k v).sum f = t.sum f - f old + f v := by
  have written : (t.insert k v).sum f = f v + (t.erase k).sum f := by simp [sum, insert]
  rw [written, sum_erase h]
  omega

/-- A value under a new key adds its amount to the sum. -/
theorem sum_insert_fresh {t : Table κ υ} {k : κ} (h : t.get? k = none) (v : υ) (f : υ → Int) :
    (t.insert k v).sum f = t.sum f + f v := by
  have written : (t.insert k v).sum f = f v + (t.erase k).sum f := by simp [sum, insert]
  rw [written, erase_of_get?_eq_none h]
  omega

theorem sum_nonneg {t : Table κ υ} {f : υ → Int} (h : ∀ k v, t.get? k = some v → 0 ≤ f v) :
    0 ≤ t.sum f := by
  refine List.sum_nonneg fun n hn => ?_
  obtain ⟨e, he, rfl⟩ := List.mem_map.mp hn
  exact h e.1 e.2 (get?_eq_some_iff.mpr he)

theorem sum_le_sum {t : Table κ υ} {f g : υ → Int} (h : ∀ k v, t.get? k = some v → f v ≤ g v) :
    t.sum f ≤ t.sum g :=
  List.sum_le_sum fun e he => h e.1 e.2 (get?_eq_some_iff.mpr he)

theorem sum_eq_zero {t : Table κ υ} {f : υ → Int} (h : ∀ k v, t.get? k = some v → f v = 0) :
    t.sum f = 0 := by
  have none : ∀ n ∈ t.entries.map (fun e => f e.2), n = 0 := by
    rintro n hn
    obtain ⟨e, he, rfl⟩ := List.mem_map.mp hn
    exact h e.1 e.2 (get?_eq_some_iff.mpr he)
  exact List.sum_eq_zero none

/-- Keys whose values have an amount of one or more are no more than the sum of the
amounts. The keys are distinct, so that no value is counted twice. -/
theorem length_le_sum {t : Table κ υ} {f : υ → Int} (nonneg : ∀ v, 0 ≤ f v) {keys : List κ}
    (nodup : keys.Nodup) (each : ∀ k ∈ keys, ∃ v, t.get? k = some v ∧ 1 ≤ f v) :
    (keys.length : Int) ≤ t.sum f := by
  induction keys generalizing t with
  | nil => exact sum_nonneg fun _ v _ => nonneg v
  | cons k rest ih =>
      obtain ⟨fresh, nodup⟩ := List.nodup_cons.mp nodup
      obtain ⟨⟨v, found, one⟩, each⟩ := List.forall_mem_cons.mp each
      have others : ∀ k' ∈ rest, ∃ v, (t.erase k).get? k' = some v ∧ 1 ≤ f v := by
        intro k' member
        have other : k' ≠ k := by
          rintro rfl
          exact fresh member
        rw [get?_erase_of_ne other]
        exact each k' member
      have fewer := ih nodup others
      rw [sum_erase found] at fewer
      rw [List.length_cons]
      omega

section Count

variable {t : Table κ υ} {k : κ} {v : υ} (p : υ → Bool)

theorem count_eq_zero : t.count p = 0 ↔ ∀ k v, t.get? k = some v → p v = false := by
  rw [count, List.countP_eq_zero]
  constructor
  · intro none k v found
    simpa using none (k, v) (get?_eq_some_iff.mp found)
  · intro none e entry
    simpa using none e.1 e.2 (get?_eq_some_iff.mpr entry)

/-- A value that is erased counts no longer, if it passed the test. -/
theorem count_erase (h : t.get? k = some v) : (t.erase k).count p + (p v).toNat = t.count p := by
  have whole := (entries_perm h).countP_eq fun e => p e.2
  rw [List.countP_cons] at whole
  cases passes : p v <;> simp_all [count]

/-- What was written counts beside the values under the other keys. -/
theorem count_written (t : Table κ υ) (k : κ) (v : υ) :
    (t.insert k v).count p = (t.erase k).count p + (p v).toNat := by
  cases passes : p v <;> simp [count, insert, passes]

/-- Writing over a value changes the number with this value only. It is stated without
subtraction. -/
theorem count_insert (h : t.get? k = some v) (v' : υ) :
    (t.insert k v').count p + (p v).toNat = t.count p + (p v').toNat := by
  rw [count_written, ← count_erase p h, Nat.add_right_comm]

theorem count_insert_fresh (h : t.get? k = none) (v : υ) :
    (t.insert k v).count p = t.count p + (p v).toNat := by
  rw [count_written, erase_of_get?_eq_none h]

end Count

/-- The values of a table are those of a list in another order, each of them up to a
`view` of it that shows its key. -/
structure Lists (t : Table κ υ) (key : υ → κ) (view : υ → υ) (vs : List υ) : Prop where
  keyed : ∀ k v, t.get? k = some v → key v = k
  same : (vs.map view).Perm (t.entries.map fun e => view e.2)

namespace Lists

variable {t : Table κ υ} {key : υ → κ} {view : υ → υ} {vs front back : List υ} {k : κ} {v v' : υ}

theorem empty (key : υ → κ) (view : υ → υ) : (∅ : Table κ υ).Lists key view [] where
  keyed _ _ found := nomatch found
  same := .nil

/-- What is in the list is in the table, up to the view. -/
theorem get? (lists : t.Lists key view vs) (shows : ∀ v, key (view v) = key v) (member : v ∈ vs) :
    ∃ w, t.get? (key v) = some w ∧ view w = view v := by
  have seen := lists.same.subset (List.mem_map_of_mem member)
  obtain ⟨⟨k, w⟩, entry, same⟩ := List.mem_map.mp seen
  have found := get?_eq_some_iff.mpr entry
  have named : key v = k := by
    rw [← lists.keyed k w found, ← shows w, ← shows v]
    exact congrArg key same.symm
  exact ⟨w, named ▸ found, same⟩

theorem absent (lists : t.Lists key view vs) (shows : ∀ v, key (view v) = key v)
    (unknown : t.get? k = none) : ∀ v ∈ vs, key v ≠ k := by
  rintro v member rfl
  obtain ⟨w, found, -⟩ := lists.get? shows member
  rw [unknown] at found
  cases found

/-- No two values in the list have the same key, since no two in the table have. -/
theorem nodup (lists : t.Lists key view vs) (shows : ∀ v, key (view v) = key v) :
    (vs.map key).Nodup := by
  have keys : ((vs.map view).map key).Perm (t.entries.map Prod.fst) := by
    refine (lists.same.map key).trans (.of_eq ?_)
    rw [List.map_map]
    refine List.map_congr_left fun e entry => ?_
    exact (shows e.2).trans (lists.keyed e.1 e.2 (get?_eq_some_iff.mpr entry))
  have seen : (vs.map view).map key = vs.map key := by
    rw [List.map_map]
    exact List.map_congr_left fun v _ => shows v
  exact seen ▸ keys.nodup_iff.mpr t.nodup

theorem erase (lists : t.Lists key view vs) {rest : List υ}
    (same : (rest.map view).Perm ((t.erase k).entries.map fun e => view e.2)) :
    (t.erase k).Lists key view rest := by
  refine ⟨fun k' v found => lists.keyed k' v ?_, same⟩
  rw [get?_erase] at found
  split at found
  · cases found
  · exact found

/-- A value of the table has its place in the list; the others are those of the other
keys, and list the rest of the table. -/
theorem split (lists : t.Lists key view vs) (shows : ∀ v, key (view v) = key v)
    (found : t.get? k = some v) : ∃ front v' back, vs = front ++ v' :: back ∧ view v' = view v ∧
      (∀ w ∈ front ++ back, key w ≠ k) ∧ (t.erase k).Lists key view (front ++ back) := by
  have perm := lists.same.trans ((entries_perm found).map fun e => view e.2)
  obtain ⟨v', member, seen⟩ := List.mem_map.mp (perm.symm.subset List.mem_cons_self)
  obtain ⟨front, back, rfl⟩ := List.append_of_mem member
  have others : ((front ++ back).map view).Perm ((t.erase k).entries.map fun e => view e.2) := by
    have whole := (List.perm_middle.symm.map view).trans perm
    rw [List.map_cons, List.map_cons, seen] at whole
    exact whole.cons_inv
  have erased := lists.erase others
  exact ⟨front, v', back, rfl, seen, erased.absent shows (get?_erase_self t k), erased⟩

/-- The first value of a key in the list is the one that the table has, up to the view.
It does not matter that the order is another one. -/
theorem find? (lists : t.Lists key view vs) (shows : ∀ v, key (view v) = key v) (k : κ) :
    (vs.find? (key · = k)).map view = (t.get? k).map view := by
  cases found : t.get? k with
  | none =>
      have others := lists.absent shows found
      have missed : vs.find? (key · = k) = none := List.find?_eq_none.mpr (by simpa using others)
      rw [missed, Option.map_none]
  | some v =>
      obtain ⟨front, v', back, rfl, seen, others, -⟩ := lists.split shows found
      have named : key v' = k := by
        rw [← shows v', seen, shows v]
        exact lists.keyed k v found
      have before : ∀ w ∈ front, key w ≠ k := fun w member =>
        others w (List.mem_append_left back member)
      have first : (front ++ v' :: back).find? (key · = k) = some v' := by
        rw [List.find?_append, List.find?_eq_none.mpr (by simpa using before)]
        simp [named]
      rw [first]
      exact congrArg some seen

/-- A value may be written anywhere in the list of the other keys. So a list may write
over a value where it stands, and a new value may go to its end. -/
theorem insert (lists : (t.erase k).Lists key view (front ++ back)) (seen : view v' = view v)
    (named : key v = k) : (t.insert k v).Lists key view (front ++ v' :: back) where
  keyed k' w found := by
    rw [get?_insert] at found
    split at found
    · rename_i same
      cases found
      exact named.trans same.symm
    · rename_i other
      exact lists.keyed k' w (by rwa [get?_erase_of_ne other])
  same := by
    refine (List.perm_middle.map view).trans ?_
    rw [List.map_cons, seen]
    exact lists.same.cons (view v)

theorem insert_new (lists : t.Lists key view vs) (unknown : t.get? k = none)
    (seen : view v' = view v) (named : key v = k) :
    (t.insert k v).Lists key view (vs ++ [v']) := by
  refine Lists.insert ?_ seen named
  rw [erase_of_get?_eq_none unknown, List.append_nil]
  exact lists

/-- A value is as often in the list as in the table, by any test of what the view shows. -/
theorem count (lists : t.Lists key view vs) {p : υ → Bool} (shows : ∀ v, p (view v) = p v) :
    vs.countP p = (t.entries.filter fun e => p e.2).length := by
  have seen (ws : List υ) : (ws.map view).countP p = ws.countP p := by
    rw [List.countP_map]
    exact List.countP_congr fun v _ => by simp [shows v]
  rw [← seen, lists.same.countP_eq, List.countP_map, ← List.countP_eq_length_filter]
  exact List.countP_congr fun e _ => by simp [shows e.2]

end Lists

section MapValues

variable {ω : Type} (f : υ → ω) (t : Table κ υ) (k : κ) (v : υ)

/-- The table with another value in place of each. Its keys stay as they are, so that it
is a table again. -/
def mapValues {κ υ ω : Type} (f : υ → ω) (t : Table κ υ) : Table κ ω :=
  ⟨t.entries.map fun e => (e.1, f e.2), by simpa [Function.comp_def] using t.nodup⟩

theorem mapValues_erase : (t.erase k).mapValues f = (t.mapValues f).erase k := by
  simp only [mapValues, erase, filter, Table.mk.injEq]
  rw [List.filter_map]
  rfl

theorem mapValues_insert : (t.insert k v).mapValues f = (t.mapValues f).insert k (f v) := by
  have others := congrArg entries (mapValues_erase f t k)
  simp only [insert, mapValues, List.map_cons, Table.mk.injEq] at others ⊢
  rw [others]

theorem get?_mapValues : (t.mapValues f).get? k = (t.get? k).map f := by
  simp only [get?, mapValues]
  induction t.entries with
  | nil => rfl
  | cons e rest ih =>
      obtain ⟨k', v'⟩ := e
      by_cases same : k = k'
      · simp [same]
      · simp [List.lookup_cons, beq_false_of_ne same, ih]

end MapValues

end FlashSale.Table
