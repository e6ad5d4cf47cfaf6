/-!
# The calendar

Dates of the Gregorian calendar, extended to all years, and the number of days
between a date and the first of January 1970. Year zero precedes year one, and
earlier years are negative.

Years are counted from March, so that the day that a leap year adds is the last
of its year; an era is a whole cycle of 400 years, which has 146097 days.
-/

namespace FlashSale

structure Date where
  year : Int
  month : Nat
  day : Nat
deriving DecidableEq, Repr

namespace Date

def isLeapYear (year : Int) : Bool :=
  year % 4 == 0 && (year % 100 != 0 || year % 400 == 0)

def daysInMonth (year : Int) (month : Nat) : Nat :=
  if month == 2 then (if isLeapYear year then 29 else 28)
  else if month == 4 || month == 6 || month == 9 || month == 11 then 30
  else 31

/-- Whether the month exists and has the day. -/
def Valid (d : Date) : Prop :=
  1 ≤ d.month ∧ d.month ≤ 12 ∧ 1 ≤ d.day ∧ d.day ≤ daysInMonth d.year d.month

instance (d : Date) : Decidable d.Valid := by
  unfold Valid
  infer_instance

/-- Days from the first of January 1970 to the date. -/
def toDays (d : Date) : Int :=
  let marchYear : Int := if d.month ≤ 2 then d.year - 1 else d.year
  let marchMonth : Nat := if d.month ≤ 2 then d.month + 9 else d.month - 3
  let era : Int := marchYear / 400
  let yearOfEra : Int := marchYear % 400
  let dayOfYear : Int := (153 * marchMonth + 2) / 5 + d.day - 1
  let dayOfEra : Int := yearOfEra * 365 + yearOfEra / 4 - yearOfEra / 100 + dayOfYear
  era * 146097 + dayOfEra - 719468

/-- The date that many days after the first of January 1970. -/
def ofDays (days : Int) : Date :=
  let shifted : Int := days + 719468
  let era : Int := shifted / 146097
  let dayOfEra : Nat := (shifted % 146097).toNat
  let yearOfEra : Nat := (dayOfEra - dayOfEra / 1460 + dayOfEra / 36524 - dayOfEra / 146096) / 365
  let dayOfYear : Nat := dayOfEra - (365 * yearOfEra + yearOfEra / 4 - yearOfEra / 100)
  let marchMonth : Nat := (5 * dayOfYear + 2) / 153
  let marchYear : Int := yearOfEra + era * 400
  let month : Nat := if marchMonth < 10 then marchMonth + 3 else marchMonth - 9
  { year := if month ≤ 2 then marchYear + 1 else marchYear
    month
    day := dayOfYear - (153 * marchMonth + 2) / 5 + 1 }

example : toDays ⟨1970, 1, 1⟩ = 0 ∧ toDays ⟨2024, 2, 29⟩ = 19782 := by decide

example : ofDays 19782 = ⟨2024, 2, 29⟩ ∧ ofDays (-1) = ⟨1969, 12, 31⟩ := by decide

end Date

end FlashSale
