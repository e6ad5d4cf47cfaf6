import FlashSale.Proofs.Text.Digits
import FlashSale.Text.Number

/-!
# Texts of numbers

Which texts are numbers, said without a reader, and that the reader agrees. The reader gives up
as soon as the digits read so far leave the range. Digits only ever add to a number, so it gives
up on a text exactly if the whole number is out of the range.
-/

namespace FlashSale

/-- The number that digits write, the first of them counting most. Leading zeros add
nothing to it. -/
def Digits.number (ds : List Nat) : Nat := ds.foldl (fun n d => n * 10 + d) 0

/-- The characters are digits, one at least, that write the number. There is no sign
among them and nothing between them. -/
inductive Writes : List Char → Nat → Prop where
  | mk {ds : List Nat} (given : ds ≠ []) (small : ∀ d ∈ ds, d < 10) :
      Writes (ds.map Digits.digit) (Digits.number ds)

/-- The text is the natural number, with a plus sign in front perhaps. The number has no
bound here; a setting has one of its own. -/
inductive IsNatural : String → Nat → Prop where
  | plain {cs : List Char} {n : Nat} (written : Writes cs n) : IsNatural (String.ofList cs) n
  | signed {cs : List Char} {n : Nat} (written : Writes cs n) :
      IsNatural (String.ofList ('+' :: cs)) n

/-- The text is the integer: a natural number, or digits behind a minus sign. Zero may
have either sign. -/
inductive IsInteger : String → Int → Prop where
  | natural {text : String} {n : Nat} (isNatural : IsNatural text n) : IsInteger text n
  | negated {cs : List Char} {n : Nat} (written : Writes cs n) :
      IsInteger (String.ofList ('-' :: cs)) (-(n : Int))

variable {c : Char} {cs : List Char} {acc n : Nat} {text : String}

namespace Digits

variable {d : Nat} {ds : List Nat}

theorem isDigit_of_digit? (read : digit? 10 c = some d) : c.isDigit = true := by
  by_cases inside : '0' ≤ c ∧ c ≤ '9'
  · simp only [Char.isDigit, Bool.and_eq_true, decide_eq_true_eq]
    exact inside
  · have excess : ¬ (if 'a' ≤ c ∧ c ≤ 'f' then c.toNat - 'a'.toNat + 10
        else if 'A' ≤ c ∧ c ≤ 'F' then c.toNat - 'A'.toNat + 10 else 10) < 10 := by
      split
      · omega
      · split <;> omega
    simp only [digit?, if_neg inside, if_neg excess] at read
    cases read

theorem eq_digit_of_digit? (read : digit? 10 c = some d) : d < 10 ∧ c = digit d := by
  obtain ⟨m, small, rfl⟩ := exists_digit (isDigit_of_digit? read)
  rw [digit?_digit (by decide) small] at read
  obtain rfl := Option.some.inj read
  exact ⟨small, rfl⟩

/-- Digits only ever add to a number. So once it is out of the range, it stays so
whatever digits follow. -/
theorem le_foldl (acc : Nat) (ds : List Nat) : acc ≤ ds.foldl (fun n d => n * 10 + d) acc := by
  induction ds generalizing acc with
  | nil => exact Nat.le_refl _
  | cons d ds ih => exact Nat.le_trans (by omega) (ih (acc * 10 + d))

end Digits

theorem Writes.isDigit (written : Writes cs n) : ∀ c ∈ cs, c.isDigit = true := by
  obtain ⟨-, small⟩ := written
  exact List.forall_mem_map.mpr fun d member => Digits.isDigit_digit d (small d member)

theorem not_writes_nil : ¬ Writes [] n := by
  intro written
  generalize empty : [] = cs at written
  obtain ⟨given, -⟩ := written
  exact given (List.map_eq_nil_iff.mp empty.symm)

/-- Digits do not begin with a sign, so that a sign in front can be told from the
number. -/
theorem not_writes_sign {sign : Char} (noDigit : sign.isDigit = false) :
    ¬ Writes (sign :: cs) n := by
  intro written
  rw [written.isDigit sign List.mem_cons_self] at noDigit
  cases noDigit

theorem isNatural_iff : IsNatural text n ↔
    Writes text.toList n ∨ ∃ cs, text.toList = '+' :: cs ∧ Writes cs n := by
  constructor
  · rintro (written | written)
    · exact .inl (String.toList_ofList.symm ▸ written)
    · exact .inr ⟨_, String.toList_ofList, written⟩
  · rintro (written | ⟨cs, shape, written⟩)
    · exact String.ofList_toList (s := text) ▸ .plain written
    · exact String.ofList_toList (s := text) ▸ shape ▸ .signed written

theorem isInteger_iff {i : Int} : IsInteger text i ↔ (∃ n : Nat, IsNatural text n ∧ i = n) ∨
    ∃ (n : Nat) (cs : List Char), text.toList = '-' :: cs ∧ Writes cs n ∧ i = -n := by
  constructor
  · rintro (isNatural | written)
    · exact .inl ⟨_, isNatural, rfl⟩
    · exact .inr ⟨_, _, String.toList_ofList, written, rfl⟩
  · rintro (⟨n, isNatural, rfl⟩ | ⟨n, cs, shape, written, rfl⟩)
    · exact .natural isNatural
    · exact String.ofList_toList (s := text) ▸ shape ▸ .negated written

theorem writes_ofNat (n : Nat) : Writes (Digits.ofNat 10 n) n := by
  obtain ⟨ds, small, shape⟩ := Digits.exists_digits (Digits.isDigit_ofNat (n := n))
  have given : ds ≠ [] := by
    rintro rfl
    exact Digits.ofNat_ne_nil 10 n shape
  have value : Digits.number ds = n := by
    have read := Digits.valueFrom?_ofNat (by decide : 10 ≤ 16) (by decide) n
    rw [shape, Digits.valueFrom?_digits 0 small] at read
    exact Option.some.inj read
  have written : Writes (ds.map Digits.digit) (Digits.number ds) := .mk given small
  rwa [← shape, value] at written

theorem isInteger_ofInt (i : Int) : IsInteger (String.ofList (Digits.ofInt i)) i := by
  unfold Digits.ofInt
  split
  · have value : -(i.natAbs : Int) = i := by omega
    have negated := IsInteger.negated (writes_ofNat i.natAbs)
    rwa [value] at negated
  · have value : (i.natAbs : Int) = i := by omega
    have natural := IsInteger.natural (.plain (writes_ofNat i.natAbs))
    rwa [value] at natural

section Except

variable {ε α β : Type} {x : Except ε α} {b : β}

theorem map_eq_ok {f : α → β} : x.map f = .ok b ↔ ∃ a, x = .ok a ∧ f a = b := by
  cases x <;> simp [Except.map]

theorem bind_eq_ok {f : α → Except ε β} : (x >>= f) = .ok b ↔ ∃ a, x = .ok a ∧ f a = .ok b := by
  cases x <;> simp [bind, Except.bind]

end Except

namespace Number

variable {limit : Nat} {excess : NumberError}

/-- The reader takes digits one by one and gives up when they leave the range. It
accepts just the digits whose whole number is within it. -/
theorem digits_eq_ok : digits limit excess acc cs = .ok n ↔ ∃ ds : List Nat, (∀ d ∈ ds, d < 10) ∧
    cs = ds.map Digits.digit ∧ ds.foldl (fun n d => n * 10 + d) acc = n ∧
      (ds = [] ∨ n ≤ limit) := by
  constructor
  · intro read
    induction cs generalizing acc with
    | nil =>
        cases read
        exact ⟨[], nofun, rfl, rfl, .inl rfl⟩
    | cons c cs ih =>
        rw [digits] at read
        split at read
        · cases read
        · rename_i d digit
          split at read
          · cases read
          · rename_i within
            obtain ⟨small, rfl⟩ := Digits.eq_digit_of_digit? digit
            obtain ⟨ds, smaller, rfl, value, bound⟩ := ih read
            refine ⟨d :: ds, List.forall_mem_cons.mpr ⟨small, smaller⟩, rfl, value, .inr ?_⟩
            obtain rfl | bound := bound
            · rw [List.foldl_nil] at value
              omega
            · exact bound
  · rintro ⟨ds, small, rfl, value, bound⟩
    induction ds generalizing acc with
    | nil => exact congrArg _ value
    | cons d ds ih =>
        obtain ⟨first, later⟩ := List.forall_mem_cons.mp small
        have whole : n ≤ limit := bound.resolve_left (List.cons_ne_nil _ _)
        have within : ¬ limit < acc * 10 + d := by
          have grows := Digits.le_foldl (acc * 10 + d) ds
          rw [List.foldl_cons] at value
          omega
        rw [List.map_cons, digits, Digits.digit?_digit (by decide) first]
        simp only [if_neg within]
        exact ih later value (.inr whole)

/-- Behind a sign there must be a digit. A sign alone is no number. -/
theorem afterSign_eq_ok : afterSign limit excess cs = .ok n ↔ Writes cs n ∧ n ≤ limit := by
  constructor
  · intro read
    cases cs with
    | nil => cases read
    | cons c cs =>
        obtain ⟨ds, small, shape, rfl, bound⟩ := digits_eq_ok.mp read
        have given : ds ≠ [] := by
          rintro rfl
          cases shape
        exact ⟨shape ▸ .mk given small, bound.resolve_left given⟩
  · rintro ⟨⟨given, small⟩, bound⟩
    rename_i ds
    have read : digits limit excess 0 (ds.map Digits.digit) = .ok (Digits.number ds) :=
      digits_eq_ok.mpr ⟨ds, small, rfl, rfl, .inr bound⟩
    cases ds with
    | nil => exact absurd rfl given
    | cons d ds => exact read

theorem digits_cons_eq_ok : digits limit excess 0 (c :: cs) = .ok n ↔ Writes (c :: cs) n ∧
    n ≤ limit :=
  have read : afterSign limit excess (c :: cs) = .ok n ↔ Writes (c :: cs) n ∧ n ≤ limit :=
    afterSign_eq_ok
  read

/-- A text is read as a natural number if and only if it is one and within the range. -/
theorem natural_eq_ok : natural limit text = .ok n ↔ IsNatural text n ∧ n ≤ limit := by
  rw [isNatural_iff, natural]
  split
  · rename_i empty
    simp [empty, not_writes_nil]
  · rename_i cs shape
    simp [shape, not_writes_sign, afterSign_eq_ok]
  · rename_i given plain
    cases shape : text.toList with
    | nil => exact absurd shape given
    | cons c cs =>
        have unsigned : ¬ ∃ rest, c :: cs = '+' :: rest ∧ Writes rest n := by
          rintro ⟨rest, same, -⟩
          exact plain rest (shape.trans same)
        rw [digits_cons_eq_ok, or_iff_left unsigned]

theorem integer_of_minus (shape : text.toList = '-' :: cs) : integer text =
    (afterSign 9223372036854775808 .tooSmall cs).map fun n : Nat => -(n : Int) := by
  simp only [integer, shape]
  cases afterSign 9223372036854775808 .tooSmall cs <;> rfl

/-- Without a minus sign an integer is read as a natural number is, with the greatest
word as its limit. -/
theorem integer_of_not_minus (plain : ∀ cs, text.toList ≠ '-' :: cs) :
    integer text = (natural 9223372036854775807 text).map fun n : Nat => (n : Int) := by
  unfold integer natural
  split
  · rename_i empty
    simp only [empty]
    rfl
  · rename_i cs shape
    simp only [shape]
    cases afterSign 9223372036854775807 .tooLarge cs <;> rfl
  · rename_i cs shape
    exact absurd shape (plain cs)
  · rename_i given unsigned _
    split
    · exact absurd ‹_› given
    · exact absurd ‹_› (unsigned _)
    · cases digits 9223372036854775807 .tooLarge 0 text.toList <;> rfl

/-- A text is read as an integer if and only if it is one that fits in a word of 64
bits. -/
theorem integer_eq_ok {i : Int} : integer text = .ok i ↔
    IsInteger text i ∧ -9223372036854775808 ≤ i ∧ i ≤ 9223372036854775807 := by
  rw [isInteger_iff]
  by_cases signed : ∃ cs, text.toList = '-' :: cs
  · obtain ⟨cs, shape⟩ := signed
    have unnatural : ∀ n, ¬ IsNatural text n := by
      intro n isNatural
      obtain written | ⟨rest, shape', -⟩ := isNatural_iff.mp isNatural
      · exact not_writes_sign rfl (shape ▸ written)
      · cases shape.symm.trans shape'
    rw [integer_of_minus shape, map_eq_ok]
    constructor
    · rintro ⟨n, read, rfl⟩
      obtain ⟨written, bound⟩ := afterSign_eq_ok.mp read
      exact ⟨.inr ⟨n, cs, shape, written, rfl⟩, by omega, by omega⟩
    · rintro ⟨⟨n, isNatural, -⟩ | ⟨n, rest, shape', written, rfl⟩, lower, -⟩
      · exact absurd isNatural (unnatural n)
      · obtain ⟨-, rfl⟩ := List.cons.inj (shape.symm.trans shape')
        exact ⟨n, afterSign_eq_ok.mpr ⟨written, by omega⟩, rfl⟩
  · have plain : ∀ cs, text.toList ≠ '-' :: cs := fun cs shape => signed ⟨cs, shape⟩
    rw [integer_of_not_minus plain, map_eq_ok]
    constructor
    · rintro ⟨n, read, rfl⟩
      obtain ⟨isNatural, bound⟩ := natural_eq_ok.mp read
      exact ⟨.inl ⟨n, isNatural, rfl⟩, by omega, by omega⟩
    · rintro ⟨⟨n, isNatural, rfl⟩ | ⟨n, cs, shape, -⟩, -, upper⟩
      · exact ⟨n, natural_eq_ok.mpr ⟨isNatural, by omega⟩, rfl⟩
      · exact absurd shape (plain cs)

/-- A text is read as an integer of a range if and only if it is one. The range must be
within that of a word, which is how the reader goes about it. -/
theorem between_eq_ok {least greatest i : Int} (lower : -9223372036854775808 ≤ least)
    (upper : greatest ≤ 9223372036854775807) :
    between least greatest text = .ok i ↔ IsInteger text i ∧ least ≤ i ∧ i ≤ greatest := by
  rw [between, bind_eq_ok]
  constructor
  · rintro ⟨n, read, within⟩
    split at within
    · rename_i inside
      cases within
      exact ⟨(integer_eq_ok.mp read).1, inside⟩
    · cases within
  · rintro ⟨isInteger, inside⟩
    exact ⟨i, integer_eq_ok.mpr ⟨isInteger, by omega, by omega⟩, if_pos inside⟩

end Number

end FlashSale
