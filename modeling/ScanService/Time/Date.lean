/-!
# Calendar dates

Dates of the proleptic Gregorian calendar, in a range of years wide enough for every date that can
be stored.  The calendar's rules are a field of the type, so that a `Date` always exists.
-/

namespace ScanService

/-- Leap years: every fourth, but of the centuries only every fourth. -/
def isLeapYear (year : Int) : Bool :=
  year % 4 == 0 && (year % 100 != 0 || year % 400 == 0)

/-- The number of days in a month of a year. -/
def daysInMonth (year : Int) : Nat → Nat
  | 2 => if isLeapYear year then 29 else 28
  | 4 | 6 | 9 | 11 => 30
  | _ => 31

/-- The rules a year, a month and a day keep together. -/
def IsDate (year : Int) (month day : Nat) : Prop :=
  -262143 ≤ year ∧ year ≤ 262142 ∧ 1 ≤ month ∧ month ≤ 12 ∧ 1 ≤ day ∧ day ≤ daysInMonth year month

instance (year : Int) (month day : Nat) : Decidable (IsDate year month day) := by
  unfold IsDate; infer_instance

/-- A day of the calendar. -/
structure Date where
  /-- The year, counted astronomically: the year before 1 is 0. -/
  year : Int
  /-- The month, from 1. -/
  month : Nat
  /-- The day of the month, from 1. -/
  day : Nat
  /-- The day exists. -/
  isDate : IsDate year month day
  deriving DecidableEq

namespace Date

/-- The date of these numbers, if there is one. -/
def of? (year : Int) (month day : Nat) : Option Date :=
  if h : IsDate year month day then some ⟨year, month, day, h⟩ else none

/-- The day after. -/
def next? (d : Date) : Option Date :=
  if d.day < daysInMonth d.year d.month then of? d.year d.month (d.day + 1)
  else if d.month < 12 then of? d.year (d.month + 1) 1
  else of? (d.year + 1) 1 1

/-- The day before. -/
def previous? (d : Date) : Option Date :=
  if 1 < d.day then of? d.year d.month (d.day - 1)
  else if 1 < d.month then of? d.year (d.month - 1) (daysInMonth d.year (d.month - 1))
  else of? (d.year - 1) 12 31

@[simp]
theorem of?_eq_some (d : Date) : of? d.year d.month d.day = some d := by
  simp [of?, d.isDate]

theorem daysInMonth_le (year : Int) (month : Nat) : daysInMonth year month ≤ 31 := by
  unfold daysInMonth
  repeat' split
  all_goals omega

end Date
end ScanService
