/-!
# Words with a checked range

Quantities, stock levels and versions are 32-bit words, stock counters are
64-bit words, and sizes and statistics are unsigned 64-bit words. Sums and
differences are computed on integers and brought back by the functions below,
so that leaving the range is an outcome of its own and never wraps around.
-/

namespace FlashSale

/-- The signed 32-bit word with the given value, if there is one. -/
def word32? (n : Int) : Option Int32 :=
  if -2147483648 ≤ n ∧ n ≤ 2147483647 then some (Int32.ofInt n) else none

/-- The signed 64-bit word with the given value, if there is one. -/
def word64? (n : Int) : Option Int64 :=
  if -9223372036854775808 ≤ n ∧ n ≤ 9223372036854775807 then some (Int64.ofInt n) else none

/-- The unsigned 64-bit word with the given value, if there is one. -/
def size64? (n : Int) : Option UInt64 :=
  if 0 ≤ n ∧ n ≤ 18446744073709551615 then some (UInt64.ofNat n.toNat) else none

theorem word32?_eq_some_iff {n : Int} {w : Int32} : word32? n = some w ↔ w.toInt = n := by
  have lower := w.le_toInt
  have upper := w.toInt_lt
  unfold word32?
  constructor
  · intro h
    split at h
    · cases h
      exact Int32.toInt_ofInt_of_le (by omega) (by omega)
    · cases h
  · rintro rfl
    rw [if_pos (by omega), Int32.ofInt_toInt]

theorem word64?_eq_some_iff {n : Int} {w : Int64} : word64? n = some w ↔ w.toInt = n := by
  have lower := w.le_toInt
  have upper := w.toInt_lt
  unfold word64?
  constructor
  · intro h
    split at h
    · cases h
      exact Int64.toInt_ofInt_of_le (by omega) (by omega)
    · cases h
  · rintro rfl
    rw [if_pos (by omega), Int64.ofInt_toInt]

theorem word32?_eq_none_iff {n : Int} :
    word32? n = none ↔ n < -2147483648 ∨ 2147483647 < n := by
  unfold word32?
  split
  · simp only [reduceCtorEq, false_iff]
    omega
  · simp only [true_iff]
    omega

theorem word64?_eq_none_iff {n : Int} :
    word64? n = none ↔ n < -9223372036854775808 ∨ 9223372036854775807 < n := by
  unfold word64?
  split
  · simp only [reduceCtorEq, false_iff]
    omega
  · simp only [true_iff]
    omega

/-- A number within the range is a word. -/
theorem exists_word32? {n : Int} (lower : -2147483648 ≤ n) (upper : n ≤ 2147483647) :
    ∃ w, word32? n = some w := ⟨_, if_pos ⟨lower, upper⟩⟩

theorem exists_word64? {n : Int} (lower : -9223372036854775808 ≤ n)
    (upper : n ≤ 9223372036854775807) : ∃ w, word64? n = some w := ⟨_, if_pos ⟨lower, upper⟩⟩

theorem size64?_eq_some_iff {n : Int} {w : UInt64} : size64? n = some w ↔ (w.toNat : Int) = n := by
  have upper := w.toNat_lt
  unfold size64?
  constructor
  · intro h
    split at h
    · cases h
      rw [UInt64.toNat_ofNat']
      omega
    · cases h
  · rintro rfl
    rw [if_pos (by omega)]
    simp

@[simp] theorem word32?_toInt (w : Int32) : word32? w.toInt = some w :=
  word32?_eq_some_iff.2 rfl

@[simp] theorem word64?_toInt (w : Int64) : word64? w.toInt = some w :=
  word64?_eq_some_iff.2 rfl

@[simp] theorem size64?_toNat (w : UInt64) : size64? w.toNat = some w :=
  size64?_eq_some_iff.2 rfl

end FlashSale
