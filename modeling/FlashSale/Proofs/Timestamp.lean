import FlashSale.Proofs.Calendar
import FlashSale.Proofs.Text.Digits
import FlashSale.Timestamp.Text

/-!
# Reading timestamps

The text of a moment is read as that moment. Each reader of a part takes the characters that
were written for the part and leaves the rest: the character after a number that may go on is
no digit, and no part begins with a blank.
-/

namespace FlashSale.Timestamp

variable {rest : List Char} {width most n : Nat}

/-- A text that does not go on with a digit. A number with no fixed width ends before
such a text. -/
def NoDigit (rest : List Char) : Prop := ∀ c, rest.head? = some c → c.isDigit = false

theorem noDigit_nil : NoDigit [] := nofun

theorem noDigit_cons {c : Char} (other : c.isDigit = false) : NoDigit (c :: rest) := by
  rintro _ ⟨⟩
  exact other

theorem takeWhile_isDigit {ds : List Char} (digits : ∀ c ∈ ds, c.isDigit = true)
    (stops : NoDigit rest) : (ds ++ rest).takeWhile Char.isDigit = ds := by
  rw [List.takeWhile_append_of_pos digits]
  cases rest with
  | nil => simp
  | cons c rest => simp [stops c rfl]

/-- A number is read up to where it stops, or up to the most digits that are read. In
the second case digits may follow, which belong to the next part. -/
theorem number_read {ds : List Char} {value : Nat} (digits : ∀ c ∈ ds, c.isDigit = true)
    (short : ds.length ≤ most) (stops : ds.length = most ∨ NoDigit rest)
    (read : Digits.value? 10 ds = some value) :
    number most (ds ++ rest) = some (value, rest) := by
  have taken : ((ds ++ rest).take most).takeWhile Char.isDigit = ds := by
    rw [List.take_append, List.take_of_length_le short]
    rcases stops with full | stops
    · simp only [full, Nat.sub_self, List.take_zero, List.append_nil]
      simpa using takeWhile_isDigit digits noDigit_nil
    · apply takeWhile_isDigit digits
      intro c first
      cases room : most - ds.length with
      | zero => simp [room] at first
      | succ k => exact stops c (by simpa [room, List.head?_take] using first)
  simp only [number, taken, read, Option.bind_eq_bind, Option.bind_some, List.drop_left]

theorem number_fixed (positive : 0 < width) (fits : n < Nat.pow 10 width) (short : width ≤ most)
    (stops : width = most ∨ NoDigit rest) :
    number most (Digits.fixed 10 width n ++ rest) = some (n, rest) := by
  have length : (Digits.fixed 10 width n).length = width := Digits.length_fixed ..
  apply number_read Digits.isDigit_fixed
  · rwa [length]
  · rwa [length]
  · exact Digits.value?_fixed (by decide) (by decide) positive fits

theorem skipBlanks_cons {c : Char} (visible : isBlank c = false) :
    skipBlanks (c :: rest) = c :: rest := by
  simp [skipBlanks, visible]

theorem isBlank_of_isDigit {c : Char} (digit : c.isDigit = true) : isBlank c = false := by
  simp only [Char.isDigit, Bool.and_eq_true, decide_eq_true_eq, ge_iff_le,
    UInt32.le_iff_toNat_le] at digit
  have lower : 48 ≤ c.toNat := digit.1
  have upper : c.toNat ≤ 57 := digit.2
  simp only [isBlank, Bool.or_eq_false_iff, Bool.and_eq_false_iff, decide_eq_false_iff_not,
    beq_eq_false_iff_ne]
  omega

/-- A number that is written begins with a digit. So the blanks that a reader skips
before a part are none of it. -/
theorem fixed_eq_cons (positive : 0 < width) (n : Nat) :
    ∃ c ds, Digits.fixed 10 width n = c :: ds ∧ c.isDigit = true := by
  cases shape : Digits.fixed 10 width n with
  | nil =>
      have length := Digits.length_fixed 10 width n
      rw [shape] at length
      exact absurd length (Nat.ne_of_lt positive)
  | cons c ds => exact ⟨c, ds, rfl, Digits.isDigit_fixed c (shape ▸ List.mem_cons_self)⟩

theorem skipBlanks_fixed (positive : 0 < width) :
    skipBlanks (Digits.fixed 10 width n ++ rest) = Digits.fixed 10 width n ++ rest := by
  obtain ⟨c, ds, shape, digit⟩ := fixed_eq_cons positive n
  rw [shape]
  exact skipBlanks_cons (isBlank_of_isDigit digit)

theorem pair_fixed (fits : n < 100) :
    pair (Digits.fixed 10 2 n ++ rest) = some (n, rest) := by
  rw [pair, skipBlanks_fixed (by decide)]
  exact number_fixed (by decide) fits (by decide) (.inl rfl)

theorem mark_cons {c : Char} (visible : isBlank c = false) : mark c (c :: rest) = some rest := by
  simp [mark, skipBlanks_cons visible]

theorem isDigit_padded {c : Char} (member : c ∈ padded width n) : c.isDigit = true := by
  unfold padded at member
  split at member
  · exact Digits.isDigit_fixed c member
  · exact Digits.isDigit_ofNat c member

theorem value?_padded (positive : 0 < width) : Digits.value? 10 (padded width n) = some n := by
  unfold padded
  split
  · exact Digits.value?_fixed (by decide) (by decide) positive ‹_›
  · exact Digits.value?_ofNat (by decide) (by decide) n

/-- The digits after a sign are read up to the hyphen. A year outside of four digits has
a sign and as many digits as it needs. -/
theorem number_padded (n : Nat) :
    number (padded 4 n ++ '-' :: rest).length (padded 4 n ++ '-' :: rest) =
      some (n, '-' :: rest) := by
  apply number_read fun c member => isDigit_padded member
  · simp
  · exact .inr (noDigit_cons rfl)
  · exact value?_padded (by decide)

/-- A year is read back with its sign, also one before the year zero. -/
theorem year_read (y : Int) : year (yearText y ++ '-' :: rest) = some (y, '-' :: rest) := by
  unfold yearText
  split
  · rename_i plain
    have four : number 4 (Digits.fixed 10 4 y.toNat ++ '-' :: rest) = some (y.toNat, '-' :: rest) :=
      number_fixed (by decide) (by show _ < 10000; omega) (by decide) (.inl rfl)
    obtain ⟨c, ds, shape, digit⟩ := fixed_eq_cons (by decide : 0 < 4) y.toNat
    unfold year
    rw [skipBlanks_fixed (by decide)]
    split
    · rename_i sign
      rw [shape] at sign
      cases sign
      cases digit
    · rename_i sign
      rw [shape] at sign
      cases sign
      cases digit
    · rw [four]
      simp only [Option.map_some]
      rw [Int.toNat_of_nonneg plain.1]
  · rename_i signed
    by_cases negative : y < 0
    · have text : (if y < 0 then '-' else '+') :: padded 4 y.natAbs ++ '-' :: rest =
          '-' :: (padded 4 y.natAbs ++ '-' :: rest) := by simp [negative]
      rw [text, year, skipBlanks_cons (by decide)]
      simp only [number_padded, Option.map_some]
      congr 2
      omega
    · have text : (if y < 0 then '-' else '+') :: padded 4 y.natAbs ++ '-' :: rest =
          '+' :: (padded 4 y.natAbs ++ '-' :: rest) := by simp [negative]
      rw [text, year, skipBlanks_cons (by decide)]
      simp only [number_padded, Option.map_some]
      congr 2
      omega

/-- A date is read back if it exists and is one of those the calendar has. The rest of
the text is left for the time of day. -/
theorem date_read {d : Date} (valid : d.Valid) (lower : -262143 ≤ d.year)
    (upper : d.year ≤ 262142) (rest : List Char) :
    date (yearText d.year ++ '-' :: (Digits.fixed 10 2 d.month ++
      '-' :: (Digits.fixed 10 2 d.day ++ rest))) = some (d, rest) := by
  have month : d.month < 100 := Nat.lt_of_le_of_lt valid.2.1 (by decide)
  have day : d.day < 100 := Nat.lt_of_le_of_lt valid.day_le (by decide)
  simp only [date, year_read, mark_cons (c := '-') (by decide), pair_fixed month, pair_fixed day,
    Option.bind_eq_bind, Option.bind_some]
  exact if_pos ⟨valid, lower, upper⟩

/-- The fraction of a second is read back from the fewest groups of three digits that it
was written with. -/
theorem fraction_read (nanos : Nat) (fits : nanos < 1000000000) :
    fraction (fractionText nanos ++ ['Z']) = some (nanos, ['Z']) := by
  have places {width n : Nat} (positive : 0 < width) (short : width ≤ 9)
      (fits : n < Nat.pow 10 width) :
      fraction ('.' :: Digits.fixed 10 width n ++ ['Z']) =
        some (n * Nat.pow 10 (9 - width), ['Z']) := by
    have length : (Digits.fixed 10 width n).length = width := Digits.length_fixed ..
    have digits : (Digits.fixed 10 width n ++ ['Z']).takeWhile Char.isDigit =
        Digits.fixed 10 width n :=
      takeWhile_isDigit Digits.isDigit_fixed (noDigit_cons rfl)
    have kept : (Digits.fixed 10 width n).take 9 = Digits.fixed 10 width n :=
      List.take_of_length_le (by omega)
    have value := Digits.value?_fixed (by decide : 10 ≤ 16) (by decide) positive fits
    simp only [fraction, List.cons_append, digits, kept, value, length, Option.bind_eq_bind,
      Option.bind_some, List.drop_left' length]
  unfold fractionText
  split
  · rename_i whole
    rw [whole]
    rfl
  split
  · rw [places (by decide) (by decide) (by show _ < 1000; omega)]
    congr 2
    show nanos / 1000000 * 1000000 = nanos
    omega
  split
  · rw [places (by decide) (by decide) (by show _ < 1000000; omega)]
    congr 2
    show nanos / 1000 * 1000 = nanos
    omega
  · rw [places (by decide) (by decide) fits]
    congr 2
    show nanos * 1 = nanos
    omega

/-- The time of day is read, a leap second as the last second and a whole second past
it. Only the last second of a minute may be one. -/
theorem time_read {second nanos : Nat} (inDay : second < 86400)
    (leap : nanos < 1000000000 ∨ nanos < 2000000000 ∧ second % 60 = 59) :
    time (Digits.fixed 10 2 (second / 3600) ++ ':' :: (Digits.fixed 10 2 (second / 60 % 60) ++
      ':' :: (Digits.fixed 10 2 (second % 60 + nanos / 1000000000) ++
        (fractionText (nanos % 1000000000) ++ ['Z'])))) = some ((second, nanos), ['Z']) := by
  have fraction := fraction_read (nanos % 1000000000) (Nat.mod_lt _ (by decide))
  have last : second % 60 + nanos / 1000000000 < 100 := by omega
  simp only [time, pair_fixed (by omega : second / 3600 < 100),
    pair_fixed (by omega : second / 60 % 60 < 100), pair_fixed last,
    mark_cons (c := ':') (by decide), fraction, Option.bind_eq_bind, Option.bind_some]
  rw [if_pos (by omega)]
  split
  · congr 2
    ext <;> dsimp only <;> omega
  · congr 2
    ext <;> dsimp only <;> omega

/-- The text of a moment is read as that moment. There is no condition: a timestamp
holds the proof that it is within the calendar. -/
theorem ofString?_toString (t : Timestamp) : ofString? t.toString = some t := by
  have valid := Date.ofDays_valid (t.seconds / 86400)
  have days := Date.toDays_ofDays (t.seconds / 86400)
  have lower := t.first_le
  have upper := t.le_last
  have inDay : (t.seconds % 86400).toNat < 86400 := by omega
  have leap : t.nanos < 1000000000 ∨
      t.nanos < 2000000000 ∧ (t.seconds % 86400).toNat % 60 = 59 := by
    have := t.leap
    omega
  have dated (rest : List Char) := date_read valid (Date.year_ge valid (by omega))
    (Date.year_le valid (by omega)) rest
  have timed := time_read inDay leap
  have moment : (Date.ofDays (t.seconds / 86400)).toDays * 86400 + (t.seconds % 86400).toNat - 0 =
      t.seconds := by omega
  have universal : offset (skipBlanks ['Z']) = some (0, []) := by decide
  have nothing : skipBlanks [] = [] := rfl
  simp only [ofString?, toString, String.toList_ofList, ofChars?, toChars, dated, separator, timed,
    universal, nothing, moment, of?_self, Option.bind_eq_bind, Option.bind_some, true_or, if_true]

end FlashSale.Timestamp
