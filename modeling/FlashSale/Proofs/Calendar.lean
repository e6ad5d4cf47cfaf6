import FlashSale.Calendar
import Mathlib.Order.Monotone.Basic

/-!
# Days and dates

A number of days stands for a date that exists, and the date stands for that number of days.

An era has years of two lengths, so the year of a day is found by a quotient that is nearly
right: days are first scaled down to years of 365 days. The scale grows with the days, so it
is enough to look at it on the first and the last day of each of the 400 years.
-/

namespace FlashSale.Date

/-- Days of an era, counted in years of 365 days. Dividing them by 365 then gives the
year, although years differ in length. -/
def yearScale (dayOfEra : Nat) : Nat :=
  dayOfEra - dayOfEra / 1460 + dayOfEra / 36524 - dayOfEra / 146096

/-- The days of an era before one of its years. -/
def daysBefore (yearOfEra : Nat) : Nat := 365 * yearOfEra + yearOfEra / 4 - yearOfEra / 100

/-- The days from the first of March on, up to the end of February. -/
def yearLength (yearOfEra : Nat) : Nat :=
  if isLeapYear (yearOfEra + 1) then 366 else 365

theorem yearScale_mono : Monotone yearScale := by
  apply monotone_nat_of_le_succ
  intro n
  have small : n / 1460 ≤ n := Nat.div_le_self n 1460
  simp only [yearScale, Nat.succ_div]
  -- A day is taken away after 400 years only where one is added after 100.
  by_cases cycle : 146096 ∣ n + 1
  · rw [if_pos cycle, if_pos (Nat.dvd_trans (by decide) cycle : 36524 ∣ n + 1)]
    split <;> omega
  · rw [if_neg cycle]
    split <;> split <;> omega

/-- The first day of each year of an era comes to that year. This and `yearScale_last`
are looked up year by year. -/
theorem yearScale_first : ∀ y < 400, 365 * y ≤ yearScale (daysBefore y) := by decide +kernel

/-- The day before the first day of a year comes to the year before. With
`yearScale_mono` this settles all the days between. -/
theorem yearScale_last :
    ∀ y < 400, 0 < y → yearScale (daysBefore y - 1) < 365 * y := by decide +kernel

theorem daysBefore_succ : ∀ y < 399, daysBefore (y + 1) = daysBefore y + yearLength y := by
  decide +kernel

section Year

variable {dayOfEra yearOfEra : Nat} (inside : dayOfEra < 146097)
  (here : yearOfEra = yearScale dayOfEra / 365)

include inside here

theorem yearOfEra_lt : yearOfEra < 400 := by
  rw [here, yearScale]
  omega

theorem daysBefore_le : daysBefore yearOfEra ≤ dayOfEra := by
  have bound := yearOfEra_lt inside here
  apply Nat.le_of_not_lt
  intro early
  have positive : 0 < yearOfEra := by
    apply Nat.pos_of_ne_zero
    rintro rfl
    cases early
  have last := yearScale_last yearOfEra bound positive
  have scaled := yearScale_mono (Nat.le_sub_one_of_lt early)
  omega

/-- What is left of the days is less than the length of the year, so that the year is
the right one. -/
theorem dayOfYear_lt : dayOfEra - daysBefore yearOfEra < yearLength yearOfEra := by
  have bound := yearOfEra_lt inside here
  have started := daysBefore_le inside here
  apply Nat.lt_of_not_le
  intro late
  by_cases last : yearOfEra = 399
  · have length : yearLength 399 = 366 := by decide
    have days : daysBefore 399 = 145731 := by decide
    rw [last] at late
    omega
  · have next := daysBefore_succ yearOfEra (by omega)
    have first := yearScale_first (yearOfEra + 1) (by omega)
    have scaled : yearScale (daysBefore (yearOfEra + 1)) ≤ yearScale dayOfEra :=
      yearScale_mono (by omega)
    omega

end Year

/-- Only February is longer in a leap year. For every other month it does not matter
which year it is. -/
theorem daysInMonth_congr {year year' : Int} {month : Nat}
    (same : month = 2 → isLeapYear year = isLeapYear year') :
    daysInMonth year month = daysInMonth year' month := by
  unfold daysInMonth
  split
  · rename_i february
    rw [same (beq_iff_eq.mp february)]
  · rfl

/-- Leap years come again after 400 years, and so it is enough to know them for one era.
-/
theorem isLeapYear_add (year era : Int) : isLeapYear (year + era * 400) = isLeapYear year := by
  have four : (year + era * 400) % 4 = year % 4 := by omega
  have hundred : (year + era * 400) % 100 = year % 100 := by omega
  have cycle : (year + era * 400) % 400 = year % 400 := by omega
  simp only [isLeapYear, four, hundred, cycle]

/-- The month of a day of the year, March being the month zero. -/
def marchMonth (dayOfYear : Nat) : Nat := (5 * dayOfYear + 2) / 153

/-- The number of a month that is counted from March. -/
def monthOf (marchMonth : Nat) : Nat := if marchMonth < 10 then marchMonth + 3 else marchMonth - 9

/-- The day of the month, of a day of the year. -/
def dayOf (dayOfYear : Nat) : Nat := dayOfYear - (153 * marchMonth dayOfYear + 2) / 5 + 1

/-- The day of the month that is found exists in its month. There are not many days in a
year, and all of them are looked at. -/
theorem dayOf_le (leap : Bool) : ∀ dayOfYear < (if leap then 366 else 365),
    dayOf dayOfYear ≤ daysInMonth (if leap then 0 else 1) (monthOf (marchMonth dayOfYear)) := by
  cases leap <;> decide +kernel

theorem monthOf_table : ∀ dayOfYear < 366, marchMonth dayOfYear ≤ 11 ∧
    (153 * marchMonth dayOfYear + 2) / 5 ≤ dayOfYear := by decide +kernel

/-- A number of days taken apart: the era, the year of the era, and the day of the year.
The year begins in March, so that a leap day is the last one. -/
structure Parts (days era : Int) (yearOfEra dayOfYear : Nat) : Prop where
  year : yearOfEra < 400
  day : dayOfYear < yearLength yearOfEra
  total : days = era * 146097 + (daysBefore yearOfEra + dayOfYear : Nat) - 719468
  date : ofDays days =
    { year := if monthOf (marchMonth dayOfYear) ≤ 2 then yearOfEra + era * 400 + 1
        else yearOfEra + era * 400
      month := monthOf (marchMonth dayOfYear)
      day := dayOf dayOfYear }

/-- Every number of days can be taken apart, also one before the first era. -/
theorem exists_parts (days : Int) :
    ∃ era yearOfEra dayOfYear, Parts days era yearOfEra dayOfYear := by
  have inside : ((days + 719468) % 146097).toNat < 146097 := by omega
  generalize here : ((days + 719468) % 146097).toNat = dayOfEra at inside
  have started := daysBefore_le inside rfl
  refine ⟨(days + 719468) / 146097, yearScale dayOfEra / 365,
    dayOfEra - daysBefore (yearScale dayOfEra / 365), yearOfEra_lt inside rfl,
    dayOfYear_lt inside rfl, by omega, ?_⟩
  subst here
  rfl

namespace Parts

variable {days era : Int} {yearOfEra dayOfYear : Nat}

theorem day_lt (parts : Parts days era yearOfEra dayOfYear) : dayOfYear < 366 := by
  have short := parts.day
  unfold yearLength at short
  split at short <;> omega

theorem toDays_ofDays (parts : Parts days era yearOfEra dayOfYear) :
    (ofDays days).toDays = days := by
  obtain ⟨late, started⟩ := monthOf_table dayOfYear parts.day_lt
  have year := parts.year
  have whole := parts.total
  rw [parts.date]
  simp only [toDays, monthOf, dayOf, daysBefore] at whole ⊢
  generalize marchMonth dayOfYear = month at *
  by_cases early : month < 10
  · have march : ¬ month + 3 ≤ 2 := by omega
    simp only [early, march, if_true, if_false]
    omega
  · have january : month - 9 ≤ 2 := by omega
    simp only [early, january, if_true, if_false]
    omega

theorem valid (parts : Parts days era yearOfEra dayOfYear) : (ofDays days).Valid := by
  obtain ⟨late, started⟩ := monthOf_table dayOfYear parts.day_lt
  have few := dayOf_le (isLeapYear (yearOfEra + 1)) dayOfYear parts.day
  rw [parts.date]
  refine ⟨?_, ?_, Nat.succ_pos _, Nat.le_trans few (Nat.le_of_eq (daysInMonth_congr ?_))⟩
  · simp only [monthOf]
    split <;> omega
  · simp only [monthOf]
    split <;> omega
  · intro february
    have year : (yearOfEra + era * 400 + 1 : Int) = yearOfEra + 1 + era * 400 := by omega
    simp only [february, Nat.le_refl, if_true, year, isLeapYear_add]
    cases isLeapYear (yearOfEra + 1) <;> rfl

end Parts

/-- The date of a number of days stands for that number of days. So no two of them have
the same date. -/
theorem toDays_ofDays (days : Int) : (ofDays days).toDays = days := by
  obtain ⟨era, yearOfEra, dayOfYear, parts⟩ := exists_parts days
  exact parts.toDays_ofDays

/-- A number of days stands for a date that exists: its month is one of the twelve, and
its day is in the month. -/
theorem ofDays_valid (days : Int) : (ofDays days).Valid := by
  obtain ⟨era, yearOfEra, dayOfYear, parts⟩ := exists_parts days
  exact parts.valid

theorem Valid.day_le {d : Date} (valid : d.Valid) : d.day ≤ 31 := by
  apply Nat.le_trans valid.2.2.2
  unfold daysInMonth
  split
  · split <;> decide
  · split <;> decide

theorem year_ge {d : Date} (valid : d.Valid) (days : -96465292 ≤ d.toDays) : -262143 ≤ d.year := by
  have short := valid.day_le
  obtain ⟨first, last, started, ended⟩ := valid
  apply Int.not_lt.mp
  intro early
  simp only [toDays] at days
  split at days <;> omega

theorem year_le {d : Date} (valid : d.Valid) (days : d.toDays ≤ 95026236) : d.year ≤ 262142 := by
  obtain ⟨first, last, started, ended⟩ := valid
  apply Int.not_lt.mp
  intro late
  simp only [toDays] at days
  split at days <;> omega

end FlashSale.Date
