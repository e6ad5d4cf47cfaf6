import FlashSale.Config.Arguments
import FlashSale.Config.CommandLine

/-!
# Reading arguments

A setting that is given as `--name=value` is taken with its whole value, whatever characters the
value has. Settings given once each are all taken if each of them has a valid text; the first
that has none is refused.
-/

namespace FlashSale.Config

/-- The arguments that give settings their texts. -/
def given (options : List (Setting × String)) : List String := options.map fun o => argument o.1 o.2

variable {options before : List (Setting × String)} {s : Setting} {value : String}

theorem ofName?_name (s : Setting) : Setting.ofName? s.name = some s := by
  cases s <;> decide +kernel

theorem name_no_equals (s : Setting) : ∀ c ∈ s.name.toList, (c != '=') = true := by
  have free : s.name.toList.all (· != '=') = true := by cases s <;> decide +kernel
  exact List.all_eq_true.mp free

theorem toList_argument (s : Setting) (value : String) :
    (argument s value).toList = '-' :: '-' :: (s.name.toList ++ '=' :: value.toList) := by
  simp [argument, String.toList_append]

/-- The name ends at the first equals sign; the value may have more of them. -/
theorem read_argument (s : Setting) (value : String) :
    Scan.read { given := before } (argument s value) = Scan.assign { given := before } s value := by
  have name : (s.name.toList ++ '=' :: value.toList).takeWhile (· != '=') = s.name.toList := by
    rw [List.takeWhile_append_of_pos (name_no_equals s)]
    simp
  have rest : (s.name.toList ++ '=' :: value.toList).dropWhile (· != '=') =
      '=' :: value.toList := by
    rw [List.dropWhile_append_of_pos (name_no_equals s)]
    simp
  cases shape : s.name.toList ++ '=' :: value.toList with
  | nil => simp at shape
  | cons c cs =>
      rw [shape] at name rest
      simp only [Scan.read, toList_argument, shape, Bool.false_eq_true, if_false, name, rest,
        Scan.long, String.ofList_toList, ofName?_name, Scan.settle]
      rfl

theorem lookup_fresh (fresh : s ∉ before.map Prod.fst) : before.lookup s = none := by
  rw [List.lookup_eq_none_iff]
  rintro p member
  rw [bne_iff_ne]
  rintro rfl
  exact fresh (List.mem_map_of_mem member)

theorem assign_valid (fresh : s ∉ before.map Prod.fst) (valid : fault? s value = none) :
    Scan.assign { given := before } s value = .ok { given := before ++ [(s, value)] } := by
  simp [Scan.assign, lookup_fresh fresh, valid]

theorem assign_invalid (fresh : s ∉ before.map Prod.fst) (invalid : fault? s value ≠ none) :
    ∃ r, Scan.assign { given := before } s value = .error r := by
  obtain ⟨fault, found⟩ := Option.ne_none_iff_exists'.mp invalid
  exact ⟨.invalidValue s value fault, by simp [Scan.assign, lookup_fresh fresh, found]⟩

theorem fresh_of_distinct {o : Setting × String}
    (distinct : ((before ++ o :: options).map Prod.fst).Nodup) : o.1 ∉ before.map Prod.fst := by
  rw [List.map_append, List.map_cons, List.nodup_append] at distinct
  exact fun member => distinct.2.2 _ member _ List.mem_cons_self rfl

/-- Settings that are given once each are taken one after the other, by induction on the
arguments. -/
theorem foldlM_valid (distinct : ((before ++ options).map Prod.fst).Nodup)
    (valid : ∀ o ∈ options, fault? o.1 o.2 = none) :
    (given options).foldlM Scan.read { given := before } =
      .ok { given := before ++ options } := by
  induction options generalizing before with
  | nil =>
      rw [List.append_nil]
      rfl
  | cons o rest ih =>
      obtain ⟨first, later⟩ := List.forall_mem_cons.mp valid
      have taken := assign_valid (fresh_of_distinct distinct) first
      rw [given, List.map_cons, List.foldlM_cons, read_argument, taken]
      rw [List.append_cons before o rest] at distinct ⊢
      exact ih distinct later

/-- One that has no valid text stops the reading, wherever it stands. The settings
before it are taken first. -/
theorem foldlM_invalid (distinct : ((before ++ options).map Prod.fst).Nodup)
    (invalid : ∃ o ∈ options, fault? o.1 o.2 ≠ none) :
    ∃ r, (given options).foldlM Scan.read { given := before } = .error r := by
  induction options generalizing before with
  | nil => simp at invalid
  | cons o rest ih =>
      have fresh := fresh_of_distinct distinct
      rw [given, List.map_cons, List.foldlM_cons, read_argument]
      by_cases first : fault? o.1 o.2 = none
      · have later : ∃ o ∈ rest, fault? o.1 o.2 ≠ none := by simpa [first] using invalid
        rw [assign_valid fresh first]
        rw [List.append_cons] at distinct
        exact ih distinct later
      · obtain ⟨r, refused⟩ := assign_invalid fresh first
        rw [refused]
        exact ⟨r, rfl⟩

/-- Settings that are given once each are taken as they are given. Their order is kept,
though it does not matter. -/
theorem scan_valid (distinct : (options.map Prod.fst).Nodup)
    (valid : ∀ o ∈ options, fault? o.1 o.2 = none) : scan (given options) = .ok options := by
  have read : (given options).foldlM Scan.read {} = .ok { given := options } :=
    foldlM_valid distinct valid
  rw [scan, read]
  rfl

theorem scan_invalid (distinct : (options.map Prod.fst).Nodup)
    (invalid : ∃ o ∈ options, fault? o.1 o.2 ≠ none) : ∃ r, scan (given options) = .error r := by
  obtain ⟨r, refused⟩ : ∃ r, (given options).foldlM Scan.read {} = .error r :=
    foldlM_invalid distinct invalid
  refine ⟨r, ?_⟩
  rw [scan, refused]
  rfl

end FlashSale.Config
