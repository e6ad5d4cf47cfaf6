import FlashSale.Text.Digits

/-!
# What numbers are written with

The characters of written numbers. What holds of every digit of the base holds of every
character, and no number but zero is written with a zero in front.
-/

namespace FlashSale.Digits

variable {base width n : Nat} {p : Char → Prop}

/-- What holds of every digit of the base holds of every character of a number with a
fixed width. -/
theorem forall_fixed (positive : 0 < base) (digits : ∀ m < base, p (digit m)) :
    ∀ c ∈ fixed base width n, p c := by
  induction width generalizing n with
  | zero => exact fun c member => (List.not_mem_nil member).elim
  | succ width ih =>
      intro c member
      obtain before | last := List.mem_append.mp member
      · exact ih c before
      · rw [List.mem_singleton.mp last]
        exact digits _ (Nat.mod_lt n positive)

theorem forall_ofNat (digits : ∀ m < 10, p (digit m)) : ∀ c ∈ ofNat 10 n, p c := by
  induction n using Nat.strongRecOn with
  | ind n ih =>
      intro c member
      rw [ofNat] at member
      split at member
      · rename_i small
        rw [List.mem_singleton.mp member]
        exact digits n (by omega)
      · obtain before | last := List.mem_append.mp member
        · exact ih (n / 10) (by omega) c before
        · rw [List.mem_singleton.mp last]
          exact digits _ (Nat.mod_lt n (by decide))

theorem isDigit_digit : ∀ m < 10, (digit m).isDigit = true := by decide

theorem isDigit_fixed : ∀ c ∈ fixed 10 width n, c.isDigit = true :=
  forall_fixed (by decide) isDigit_digit

theorem isDigit_ofNat : ∀ c ∈ ofNat 10 n, c.isDigit = true := forall_ofNat isDigit_digit

theorem exists_digit {c : Char} (isDigit : c.isDigit = true) : ∃ m < 10, c = digit m := by
  simp only [Char.isDigit, Bool.and_eq_true, decide_eq_true_eq] at isDigit
  have lower : 48 ≤ c.toNat := isDigit.1
  have upper : c.toNat ≤ 57 := isDigit.2
  refine ⟨c.toNat - 48, by omega, ?_⟩
  have same : '0'.toNat + (c.toNat - 48) = c.toNat := by
    change 48 + (c.toNat - 48) = c.toNat
    omega
  rw [digit, if_pos (by omega), same, Char.ofNat_toNat]

/-- Digits read one after another go on from the number before them. -/
theorem valueFrom?_digits {ds : List Nat} (acc : Nat) (small : ∀ d ∈ ds, d < 10) :
    valueFrom? 10 acc (ds.map digit) = some (ds.foldl (fun m d => m * 10 + d) acc) := by
  induction ds generalizing acc with
  | nil => rfl
  | cons d ds ih =>
      obtain ⟨first, later⟩ := List.forall_mem_cons.mp small
      rw [List.map_cons, valueFrom?, digit?_digit (by decide) first]
      exact ih _ later

theorem exists_digits {cs : List Char} (isDigits : ∀ c ∈ cs, c.isDigit = true) :
    ∃ ds : List Nat, (∀ d ∈ ds, d < 10) ∧ cs = ds.map digit := by
  induction cs with
  | nil => exact ⟨[], nofun, rfl⟩
  | cons c cs ih =>
      obtain ⟨first, later⟩ := List.forall_mem_cons.mp isDigits
      obtain ⟨m, small, rfl⟩ := exists_digit first
      obtain ⟨ds, smaller, rfl⟩ := ih later
      exact ⟨m :: ds, List.forall_mem_cons.mpr ⟨small, smaller⟩, rfl⟩

/-- The first digit of a number is a zero only if the number is. So numbers are written
without zeros in front. -/
theorem eq_zero_of_head? (zero : (ofNat 10 n).head? = some '0') : n = 0 := by
  induction n using Nat.strongRecOn with
  | ind n ih =>
      rw [ofNat] at zero
      split at zero
      · have table : ∀ m < 10, digit m = '0' → m = 0 := by decide
        exact table n (by omega) (Option.some.inj zero)
      · have before : (ofNat 10 (n / 10)).head? = some '0' := by
          rw [List.head?_append] at zero
          cases front : ofNat 10 (n / 10) with
          | nil => exact absurd front (ofNat_ne_nil 10 (n / 10))
          | cons c rest => simpa [front] using zero
        have quotient := ih (n / 10) (by omega) before
        omega

end FlashSale.Digits
