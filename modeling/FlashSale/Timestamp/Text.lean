import FlashSale.Text.Blank
import FlashSale.Text.Digits
import FlashSale.Timestamp.Basic

/-!
# The text of a timestamp

A moment is written `YYYY-MM-DDThh:mm:ss`, a fraction of the second with as few
of 0, 3, 6 or 9 digits as are exact, and `Z`. A year of more than four digits
or before year zero has a sign, and a leap second is second 60.

Reading is more generous: blanks may stand around every part, numbers need no
padding, any number of fraction digits may be given, and the moment may be
stated in local time with its offset from universal time.
-/

namespace FlashSale.Timestamp

/-- At least `width` digits. -/
def padded (width n : Nat) : List Char :=
  if n < Nat.pow 10 width then Digits.fixed 10 width n else Digits.ofNat 10 n

def yearText (year : Int) : List Char :=
  if 0 ≤ year ∧ year ≤ 9999 then Digits.fixed 10 4 year.toNat
  else (if year < 0 then '-' else '+') :: padded 4 year.natAbs

/-- The fraction of a second, with the point in front. -/
def fractionText (nanos : Nat) : List Char :=
  if nanos = 0 then []
  else if nanos % 1000000 = 0 then '.' :: Digits.fixed 10 3 (nanos / 1000000)
  else if nanos % 1000 = 0 then '.' :: Digits.fixed 10 6 (nanos / 1000)
  else '.' :: Digits.fixed 10 9 nanos

def toChars (t : Timestamp) : List Char :=
  let date := Date.ofDays (t.seconds / 86400)
  let second := (t.seconds % 86400).toNat
  let two := Digits.fixed 10 2
  yearText date.year ++ '-' :: (two date.month ++ '-' :: (two date.day ++ 'T' ::
    (two (second / 3600) ++ ':' :: (two (second / 60 % 60) ++ ':' ::
      (two (second % 60 + t.nanos / 1000000000) ++
        (fractionText (t.nanos % 1000000000) ++ ['Z']))))))

def toString (t : Timestamp) : String := String.ofList t.toChars

/-- Reads a value from the front of a text and leaves the rest. -/
abbrev Reader (α : Type) := List Char → Option (α × List Char)

/-- Reads one to `most` digits, as many as there are. -/
def number (most : Nat) : Reader Nat := fun cs => do
  let ds := (cs.take most).takeWhile Char.isDigit
  let n ← Digits.value? 10 ds
  some (n, cs.drop ds.length)

/-- Reads a number of at most two digits after any blanks. -/
def pair (cs : List Char) : Option (Nat × List Char) := number 2 (skipBlanks cs)

/-- Passes one given character after any blanks. -/
def mark (c : Char) (cs : List Char) : Option (List Char) :=
  match skipBlanks cs with
  | [] => none
  | c' :: rest => if c' = c then some rest else none

/-- Reads a year: four digits at most, any number after a sign. -/
def year : Reader Int := fun cs =>
  match skipBlanks cs with
  | '-' :: rest => (number rest.length rest).map fun (n, rest) => (-(n : Int), rest)
  | '+' :: rest => (number rest.length rest).map fun (n, rest) => ((n : Int), rest)
  | rest => (number 4 rest).map fun (n, rest) => ((n : Int), rest)

def date : Reader Date := fun cs => do
  let (y, cs) ← year cs
  let (m, cs) ← pair (← mark '-' cs)
  let (d, cs) ← pair (← mark '-' cs)
  let date : Date := ⟨y, m, d⟩
  if date.Valid ∧ -262143 ≤ y ∧ y ≤ 262142 then some (date, cs) else none

/-- Passes the `T` or the blank between date and time. -/
def separator : List Char → Option (List Char)
  | [] => none
  | c :: rest => if c = 'T' ∨ c = 't' ∨ isBlank c then some rest else none

/-- Reads a fraction of a second in nanoseconds; digits after the ninth are dropped. -/
def fraction : Reader Nat
  | '.' :: rest => do
    let ds := rest.takeWhile Char.isDigit
    let kept := ds.take 9
    let n ← Digits.value? 10 kept
    some (n * Nat.pow 10 (9 - kept.length), rest.drop ds.length)
  | cs => some (0, cs)

/-- Reads the time of day in seconds and nanoseconds. -/
def time : Reader (Nat × Nat) := fun cs => do
  let (h, cs) ← pair cs
  let (m, cs) ← pair (← mark ':' cs)
  let (s, cs) ← pair (← mark ':' cs)
  let (nanos, cs) ← fraction cs
  if h ≤ 23 ∧ m ≤ 59 ∧ s ≤ 60 then
    if s = 60 then some ((h * 3600 + m * 60 + 59, nanos + 1000000000), cs)
    else some ((h * 3600 + m * 60 + s, nanos), cs)
  else none

/-- Reads exactly two digits. -/
def twoDigits : Reader Nat
  | a :: b :: rest => (Digits.value? 10 [a, b]).map fun n => (n, rest)
  | _ => none

/-- Reads hours and minutes with any colons and blanks between them. -/
def hoursMinutes : Reader Nat := fun cs => do
  let (h, cs) ← twoDigits cs
  let (m, cs) ← twoDigits (cs.dropWhile fun c => c = ':' || isBlank c)
  if h ≤ 23 ∧ m ≤ 59 then some (h * 3600 + m * 60, cs) else none

/-- Reads the offset of local time from universal time, in seconds. -/
def offset : Reader Int := fun cs =>
  if (cs.take 3).map Char.toUpper = ['U', 'T', 'C'] then some (0, cs.drop 3)
  else
    match cs with
    | 'Z' :: rest => some (0, rest)
    | 'z' :: rest => some (0, rest)
    | '+' :: rest => (hoursMinutes rest).map fun (n, rest) => ((n : Int), rest)
    | '-' :: rest => (hoursMinutes rest).map fun (n, rest) => (-(n : Int), rest)
    | '−' :: rest => (hoursMinutes rest).map fun (n, rest) => (-(n : Int), rest)
    | _ => none

/-- Reads a whole text as a moment. -/
def ofChars? (cs : List Char) : Option Timestamp := do
  let (date, cs) ← date cs
  let ((second, nanos), cs) ← time (← separator cs)
  let (shift, cs) ← offset (skipBlanks cs)
  if skipBlanks cs = [] then of? (date.toDays * 86400 + second - shift) nanos else none

def ofString? (s : String) : Option Timestamp := ofChars? s.toList

example : (ofString? "2024-01-01T00:00:00+05:30").map toString = some "2023-12-31T18:30:00Z" := by
  decide +kernel

example : (ofString? "2024-12-31T23:59:60.25Z").map toString = some "2024-12-31T23:59:60.250Z" := by
  decide +kernel

example : ofString? "10000-01-01T00:00:00Z" = none := by decide +kernel

end FlashSale.Timestamp
