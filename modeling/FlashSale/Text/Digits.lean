/-!
# Digits

Numbers are written with the digits `0` to `9` and `a` to `f` and read with
either case of the letters. `fixed` writes a given number of digits and
`ofNat` as few as possible; `value?` reads both, which is what
`value?_fixed` and `value?_ofNat` say.

The base is a parameter: identifiers use sixteen, everything else ten.
-/

namespace FlashSale.Digits

/-- The digit of a number below sixteen. -/
def digit (n : Nat) : Char :=
  if n < 10 then Char.ofNat ('0'.toNat + n) else Char.ofNat ('a'.toNat + (n - 10))

/-- The number a digit stands for, if it is a digit of the base. -/
def digit? (base : Nat) (c : Char) : Option Nat :=
  let n :=
    if '0' ≤ c ∧ c ≤ '9' then c.toNat - '0'.toNat
    else if 'a' ≤ c ∧ c ≤ 'f' then c.toNat - 'a'.toNat + 10
    else if 'A' ≤ c ∧ c ≤ 'F' then c.toNat - 'A'.toNat + 10
    else base
  if n < base then some n else none

/-- The last `width` digits of a number. -/
def fixed (base : Nat) : (width : Nat) → Nat → List Char
  | 0, _ => []
  | width + 1, n => fixed base width (n / base) ++ [digit (n % base)]

/-- All digits of a number, without a leading zero. -/
def ofNat (base n : Nat) : List Char :=
  if _h : n < base ∨ base < 2 then [digit n] else ofNat base (n / base) ++ [digit (n % base)]
termination_by n
decreasing_by exact Nat.div_lt_self (by omega) (by omega)

/-- Reads digits on from a number already read. -/
def valueFrom? (base : Nat) : Nat → List Char → Option Nat
  | acc, [] => some acc
  | acc, c :: cs => do
    let d ← digit? base c
    valueFrom? base (acc * base + d) cs

/-- The number written by a list of digits; there must be at least one. -/
def value? (base : Nat) : List Char → Option Nat
  | [] => none
  | cs => valueFrom? base 0 cs

/-- A decimal number, with a sign if it is negative. -/
def ofInt (n : Int) : List Char :=
  if n < 0 then '-' :: ofNat 10 n.natAbs else ofNat 10 n.natAbs

theorem digit?_digit {base n : Nat} (hb : base ≤ 16) (hn : n < base) :
    digit? base (digit n) = some n := by
  have table : ∀ m < 16, ∀ b ≤ 16, m < b → digit? b (digit m) = some m := by decide
  exact table n (by omega) base hb hn

theorem valueFrom?_append (base acc : Nat) (cs ds : List Char) :
    valueFrom? base acc (cs ++ ds) =
      (valueFrom? base acc cs).bind fun n => valueFrom? base n ds := by
  induction cs generalizing acc with
  | nil => rfl
  | cons c cs ih =>
    simp only [List.cons_append, valueFrom?]
    cases digit? base c with
    | none => rfl
    | some d => exact ih _

theorem length_fixed (base width n : Nat) : (fixed base width n).length = width := by
  induction width generalizing n with
  | zero => rfl
  | succ width ih => simp [fixed, ih]

theorem ofNat_ne_nil (base n : Nat) : ofNat base n ≠ [] := by
  unfold ofNat
  split <;> simp

theorem valueFrom?_fixed {base : Nat} (hb : base ≤ 16) (h1 : 1 ≤ base) (acc width n : Nat)
    (hn : n < base.pow width) :
    valueFrom? base acc (fixed base width n) = some (acc * base.pow width + n) := by
  induction width generalizing n with
  | zero =>
    obtain rfl : n = 0 := by simpa using hn
    simp [fixed, valueFrom?]
  | succ width ih =>
    have grows : base.pow (width + 1) = base.pow width * base := rfl
    have high : n / base < base.pow width := by
      rw [Nat.div_lt_iff_lt_mul (by omega)]
      exact hn
    have low := digit?_digit hb (Nat.mod_lt n (by omega))
    rw [fixed, valueFrom?_append, ih _ high]
    simp only [Option.bind_some, valueFrom?, low]
    have split := Nat.div_add_mod n base
    simp only [Option.bind_eq_bind, Option.bind_some, Option.some.injEq, grows]
    rw [Nat.add_mul, Nat.mul_assoc, Nat.add_assoc]
    rw [Nat.mul_comm (n / base) base, split]

theorem value?_fixed {base width n : Nat} (hb : base ≤ 16) (h1 : 1 ≤ base) (hw : 0 < width)
    (hn : n < base.pow width) : value? base (fixed base width n) = some n := by
  have nonempty := length_fixed base width n
  have read := valueFrom?_fixed hb h1 0 width n hn
  cases h : fixed base width n with
  | nil => simp [h] at nonempty; omega
  | cons c cs => rw [h] at read; simpa [value?] using read

theorem valueFrom?_ofNat {base : Nat} (hb : base ≤ 16) (h2 : 2 ≤ base) (n : Nat) :
    valueFrom? base 0 (ofNat base n) = some n := by
  induction n using Nat.strongRecOn with
  | ind n ih =>
    unfold ofNat
    split
    · next h => simp [valueFrom?, digit?_digit hb (show n < base by omega)]
    · next h =>
      have smaller : n / base < n := Nat.div_lt_self (by omega) (by omega)
      have low := digit?_digit hb (Nat.mod_lt n (by omega : 0 < base))
      rw [valueFrom?_append, ih _ smaller]
      simp only [Option.bind_some, valueFrom?, low, Option.bind_eq_bind]
      rw [Nat.mul_comm, Nat.div_add_mod]

theorem value?_ofNat {base : Nat} (hb : base ≤ 16) (h2 : 2 ≤ base) (n : Nat) :
    value? base (ofNat base n) = some n := by
  have read := valueFrom?_ofNat hb h2 n
  cases h : ofNat base n with
  | nil => exact absurd h (ofNat_ne_nil base n)
  | cons c cs => rw [h] at read; simpa [value?] using read

end FlashSale.Digits
