/-!
# Finite tables

A table pairs each key with at most one value. Looking a key up sees the value
that was written last, and nothing else in the table depends on the order in
which keys were written; `get?_insert` and `get?_filter` are the only facts the
rest of the library needs.
-/

namespace FlashSale

/-- A finite map; no key occurs twice. -/
structure Table (κ υ : Type) where
  entries : List (κ × υ)
  nodup : (entries.map Prod.fst).Nodup

namespace Table

variable {κ υ : Type}

def empty : Table κ υ := ⟨[], .nil⟩

instance : EmptyCollection (Table κ υ) := ⟨empty⟩

instance : Inhabited (Table κ υ) := ⟨empty⟩

/-- Keeps the entries that pass the test. -/
def filter (keep : κ → υ → Bool) (t : Table κ υ) : Table κ υ :=
  ⟨t.entries.filter fun e => keep e.1 e.2, t.nodup.sublist (List.filter_sublist.map _)⟩

variable [DecidableEq κ]

def get? (t : Table κ υ) (k : κ) : Option υ := t.entries.lookup k

def contains (t : Table κ υ) (k : κ) : Bool := (t.get? k).isSome

def erase (t : Table κ υ) (k : κ) : Table κ υ := t.filter fun k' _ => k' != k

/-- Writes a value, in place of the one the key had before. -/
def insert (t : Table κ υ) (k : κ) (v : υ) : Table κ υ where
  entries := (k, v) :: (t.erase k).entries
  nodup := by
    refine List.nodup_cons.2 ⟨fun h => ?_, (t.erase k).nodup⟩
    obtain ⟨e, he, rfl⟩ := List.mem_map.1 h
    simp [erase, filter] at he

theorem get?_eq_some_iff {t : Table κ υ} {k : κ} {v : υ} :
    t.get? k = some v ↔ (k, v) ∈ t.entries := by
  obtain ⟨entries, nodup⟩ := t
  simp only [get?]
  induction entries with
  | nil => simp
  | cons e rest ih =>
    obtain ⟨k', v'⟩ := e
    obtain ⟨fresh, nodup⟩ := List.nodup_cons.1 nodup
    by_cases h : k = k'
    · subst h
      have absent : (k, v) ∉ rest := fun hm => fresh (List.mem_map.2 ⟨_, hm, rfl⟩)
      simp only [List.lookup_cons, beq_self_eq_true, List.mem_cons, Prod.mk.injEq, true_and]
      constructor
      · rintro ⟨⟩
        exact .inl rfl
      · rintro (rfl | hm)
        · rfl
        · exact absurd hm absent
    · rw [List.lookup_cons, beq_false_of_ne h]
      simp [h, ih nodup]

@[simp] theorem get?_empty (k : κ) : (∅ : Table κ υ).get? k = none := rfl

theorem get?_filter (t : Table κ υ) (keep : κ → υ → Bool) (k : κ) :
    (t.filter keep).get? k = (t.get? k).filter (keep k) := by
  refine Option.ext fun v => ?_
  rw [get?_eq_some_iff, Option.filter_eq_some_iff, get?_eq_some_iff]
  exact List.mem_filter

theorem get?_erase (t : Table κ υ) (k k' : κ) :
    (t.erase k).get? k' = if k' = k then none else t.get? k' := by
  rw [erase, get?_filter]
  by_cases h : k' = k <;> cases t.get? k' <;> simp [h, Option.filter]

theorem get?_insert (t : Table κ υ) (k k' : κ) (v : υ) :
    (t.insert k v).get? k' = if k' = k then some v else t.get? k' := by
  have step : (t.insert k v).get? k' = if k' = k then some v else (t.erase k).get? k' := by
    simp only [get?, insert, List.lookup_cons]
    by_cases h : k' = k
    · simp [h]
    · simp [h, beq_false_of_ne h]
  rw [step, get?_erase]
  split <;> rfl

@[simp] theorem get?_insert_self (t : Table κ υ) (k : κ) (v : υ) :
    (t.insert k v).get? k = some v := by
  simp [get?_insert]

end Table

end FlashSale
