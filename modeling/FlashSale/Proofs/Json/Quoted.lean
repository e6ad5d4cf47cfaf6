import FlashSale.Json.Token
import FlashSale.Proofs.Json.Grammar

/-!
# Reading strings

A string is read piece by piece: an escape is never split, and a quote ends the string only
where no piece holds it. What the pieces denote is a second step, in which two surrogates in a
row are put together.

The text that a string is written for is read from it again. Each character is escaped by
itself, as a piece that denotes it; a control character is a unit and no surrogate, so that what
follows it makes no difference.
-/

namespace FlashSale.Json

variable {s t : List Char} {p : Piece} {ps : List Piece}

theorem unescape?_listed : ∀ e ∈ shortEscapes, unescape? e.1 = some e.2 ∧ e.1 ≠ 'u' := by decide

theorem digit?_listed : ∀ e ∈ hexDigits, Digits.digit? 16 e.1 = some e.2 ∧ e.1 ≠ '"' ∧
    e.1 ≠ '\\' := by decide

/-- A piece is read as itself, whatever comes after it. An escape is as long as its
first characters say. -/
theorem pieces?_piece (formed : IsPiece s p) (rest : Text) :
    pieces? (s.map some ++ rest) = (pieces? rest).map (p :: ·) := by
  cases formed with
  | plain visible quote backslash => simp [pieces?, backslash, Nat.not_lt.mpr visible]
  | short listed =>
      obtain ⟨meaning, other⟩ := unescape?_listed _ listed
      simp [pieces?, other, meaning]
  | unit first second third fourth =>
      have a := (digit?_listed _ first).1
      have b := (digit?_listed _ second).1
      have c := (digit?_listed _ third).1
      have d := (digit?_listed _ fourth).1
      simp [pieces?, unit?, Digits.value?, Digits.valueFrom?, a, b, c, d]

/-- The inside of a string is read as its pieces, by induction on them. -/
theorem pieces?_inside (spelled : IsInside t ps) : pieces? (t.map some) = some ps := by
  induction spelled with
  | nil => rfl
  | cons first rest ih => rw [List.map_append, pieces?_piece first, ih, Option.map_some]

theorem joinPieces?_unit {n : Nat} (plain : n < 0xd800 ∨ 0xdfff < n) :
    joinPieces? (.unit n :: ps) = (joinPieces? ps).map (Char.ofNat n :: ·) := by
  have high : isHighSurrogate n = false := by
    simp only [isHighSurrogate, Bool.and_eq_false_iff, decide_eq_false_iff_not]
    omega
  have low : isLowSurrogate n = false := by
    simp only [isLowSurrogate, Bool.and_eq_false_iff, decide_eq_false_iff_not]
    omega
  cases ps with
  | nil => simp [joinPieces?, high, low]
  | cons q ps => cases q <;> simp [joinPieces?, high, low]

theorem joinPieces?_of_denotes {cs : List Char} (denotes : Denotes ps cs) :
    joinPieces? ps = some cs := by
  induction denotes with
  | nil => rfl
  | char rest ih => simp [joinPieces?, ih]
  | unit plain rest ih => rw [joinPieces?_unit plain, ih, Option.map_some]
  | @pair n m ps cs high low rest ih =>
      have both : (isHighSurrogate n && isLowSurrogate m) = true := by
        simpa [isHighSurrogate, isLowSurrogate] using And.intro high low
      simp [joinPieces?, both, ih]

/-- Pieces that are put together to a text denote it. With `joinPieces?_of_denotes`, the
reader and the grammar agree on strings. -/
theorem denotes_of_joinPieces? {cs : List Char} (joins : joinPieces? ps = some cs) :
    Denotes ps cs := by
  fun_induction joinPieces? ps generalizing cs with
  | case1 =>
      cases joins
      exact .nil
  | case2 => cases joins
  | case3 c rest ih =>
      obtain ⟨cs, read, rfl⟩ := Option.map_eq_some_iff.mp joins
      exact .char (ih read)
  | case4 n m rest pair c =>
      rename_i ih
      obtain ⟨cs, read, rfl⟩ := Option.map_eq_some_iff.mp joins
      simp only [isHighSurrogate, isLowSurrogate, Bool.and_eq_true, decide_eq_true_eq] at pair
      exact .pair pair.1 pair.2 (ih read)
  | case5 n m rest pair alone => cases joins
  | case6 n m rest pair alone ih =>
      obtain ⟨cs, read, rfl⟩ := Option.map_eq_some_iff.mp joins
      refine .unit ?_ (ih read)
      simp [isHighSurrogate, isLowSurrogate] at alone
      omega
  | case7 n rest _ alone => cases joins
  | case8 n rest _ alone ih =>
      obtain ⟨cs, read, rfl⟩ := Option.map_eq_some_iff.mp joins
      refine .unit ?_ (ih read)
      simp [isHighSurrogate, isLowSurrogate] at alone
      omega

namespace Lexer

theorem read_piece (formed : IsPiece s p) (tokens : List Token) (inside : Text) :
    (s.map some).foldlM read { tokens, pending := .quoted inside false } =
      some { tokens, pending := .quoted ((s.map some).reverse ++ inside) false } := by
  cases formed with
  | plain visible quote backslash => simp [read, quote, backslash]
  | short listed => simp [read]
  | unit first second third fourth =>
      have a := (digit?_listed _ first).2
      have b := (digit?_listed _ second).2
      have c := (digit?_listed _ third).2
      have d := (digit?_listed _ fourth).2
      simp [read, a, b, c, d]

/-- The pieces of a string do not end it. So the quote behind them is the one that does.
-/
theorem read_spelled (spelled : IsInside t ps) (tokens : List Token) (inside : Text) :
    (t.map some).foldlM read { tokens, pending := .quoted inside false } =
      some { tokens, pending := .quoted ((t.map some).reverse ++ inside) false } := by
  induction spelled generalizing inside with
  | nil => rfl
  | cons first rest ih =>
      rw [List.map_append, List.foldlM_append, read_piece first, Option.bind_eq_bind,
        Option.bind_some, ih, List.reverse_append, List.append_assoc]

/-- A string is one token, with the text that it denotes, if any. A string that denotes
none is still a string. -/
theorem read_quoted (spelled : IsInside t ps) (tokens : List Token) :
    ((quoted t).map some).foldlM read { tokens } =
      some { tokens := .string ((joinPieces? ps).map String.ofList) :: tokens } := by
  have opened : read { tokens } (some '"') = some { tokens, pending := .quoted [] false } := rfl
  have closed : read { tokens, pending := .quoted ((t.map some).reverse ++ []) false } (some '"') =
      some { tokens := .string ((joinPieces? ps).map String.ofList) :: tokens } := by
    simp [read, accept, unquote?, pieces?_inside spelled]
  simp only [quoted, List.map_cons, List.map_append, List.map_nil, List.foldlM_cons,
    List.foldlM_append, List.foldlM_nil, opened, read_spelled spelled, closed,
    Option.bind_eq_bind, Option.bind_some]
  rfl

end Lexer

theorem digit_listed : ∀ m < 16, (Digits.digit m, m) ∈ hexDigits := by decide

theorem isPiece_control {n : Nat} (control : n < 32) :
    IsPiece ('\\' :: 'u' :: Digits.fixed 16 4 n) (.unit n) := by
  have digit (m : Nat) : (Digits.digit (m % 16), m % 16) ∈ hexDigits :=
    digit_listed _ (Nat.mod_lt m (by decide))
  have piece := IsPiece.unit (digit (n / 16 / 16 / 16)) (digit (n / 16 / 16)) (digit (n / 16))
    (digit n)
  have number : ((n / 16 / 16 / 16 % 16 * 16 + n / 16 / 16 % 16) * 16 + n / 16 % 16) * 16 + n % 16 =
      n := by omega
  rwa [number] at piece

/-- A character is written as a piece that denotes it, whatever comes after it. So a
text is written character by character. -/
theorem escape_isPiece (c : Char) : ∃ p, IsPiece (escape c) p ∧
    ∀ {ps cs}, Denotes ps cs → Denotes (p :: ps) (c :: cs) := by
  unfold escape
  split
  · rename_i same
    exact ⟨_, .short (by rw [same]; decide), .char⟩
  rename_i quote
  split
  · rename_i same
    exact ⟨_, .short (by rw [same]; decide), .char⟩
  rename_i backslash
  split
  · rename_i same
    exact ⟨_, .short (by rw [same]; decide), .char⟩
  split
  · rename_i same
    exact ⟨_, .short (by rw [same]; decide), .char⟩
  split
  · rename_i same
    exact ⟨_, .short (by rw [same]; decide), .char⟩
  split
  · rename_i same
    exact ⟨_, .short (by rw [same]; decide), .char⟩
  split
  · rename_i same
    exact ⟨_, .short (by rw [same]; decide), .char⟩
  split
  · rename_i control
    have noSurrogate : c.toNat < 0xd800 := by omega
    refine ⟨_, isPiece_control control, fun rest => ?_⟩
    have denotes := Denotes.unit (.inl noSurrogate) rest
    rwa [Char.ofNat_toNat] at denotes
  · exact ⟨_, .plain (by omega) quote backslash, .char⟩

theorem written_spelled (cs : List Char) :
    ∃ ps, IsInside (cs.flatMap escape) ps ∧ Denotes ps cs := by
  induction cs with
  | nil => exact ⟨[], .nil, .nil⟩
  | cons c cs ih =>
      obtain ⟨ps, spelled, denotes⟩ := ih
      obtain ⟨p, first, means⟩ := escape_isPiece c
      exact ⟨p :: ps, .cons first spelled, means denotes⟩

/-- A written string is read as one token, with the text that it was written for.
Whatever had to be escaped comes back. -/
theorem Lexer.read_quote (s : String) (tokens : List Token) :
    ((quote s).map some).foldlM read { tokens } =
      some { tokens := .string (some s) :: tokens } := by
  obtain ⟨ps, spelled, denotes⟩ := written_spelled s.toList
  have text : (joinPieces? ps).map String.ofList = some s := by
    rw [joinPieces?_of_denotes denotes, Option.map_some, String.ofList_toList]
  have read := read_quoted spelled tokens
  rwa [text] at read

end FlashSale.Json
