/-!
Dates of the Gregorian calendar, extended to all years of a fixed range, and the number of days from
the first of January 1970 to a date. Going from a day number to its date and back gives the day
number again.
-/
namespace Stencil.Calendar

structure Date where
  year : Int
  month : Nat
  day : Nat
  deriving DecidableEq, Repr

def isLeapYear (y : Int) : Bool := y % 4 == 0 && (y % 100 != 0 || y % 400 == 0)

def daysInMonth (y : Int) (m : Nat) : Nat :=
  match m with
  | 2 => if isLeapYear y then 29 else 28
  | 4 => 30
  | 6 => 30
  | 9 => 30
  | 11 => 30
  | _ => 31

def daysInYear (y : Int) : Nat := if isLeapYear y then 366 else 365

/-- Days from the first of January of the year 1 to that of the year `y`. -/
def daysBeforeYear (y : Int) : Int :=
  365 * (y - 1) + (y - 1) / 4 - (y - 1) / 100 + (y - 1) / 400

/-- Days of the year in front of a month. -/
def daysBeforeMonth (y : Int) : Nat → Nat
  | 0 => 0
  | 1 => 0
  | m + 1 => daysBeforeMonth y m + daysInMonth y m

/-- Days from the first of January of the year 1 to that of 1970. -/
def epochDay : Int := 719162

def firstYear : Int := -262143

def lastYear : Int := 262142

namespace Date

/-- A date of a year in range, with a month of the year and a day of the month. -/
def Valid (d : Date) : Prop :=
  firstYear ≤ d.year ∧ d.year ≤ lastYear ∧ 1 ≤ d.month ∧ d.month ≤ 12 ∧ 1 ≤ d.day ∧
    d.day ≤ daysInMonth d.year d.month

instance (d : Date) : Decidable d.Valid := by
  unfold Valid
  infer_instance

/-- A date, if there is one with these numbers. -/
def of? (year : Int) (month day : Nat) : Option Date :=
  let d : Date := ⟨year, month, day⟩
  if d.Valid then some d else none

/-- The day of the year, counted from one. -/
def dayOfYear (d : Date) : Nat := daysBeforeMonth d.year d.month + d.day

def dayNumber (d : Date) : Int := daysBeforeYear d.year + d.dayOfYear - 1 - epochDay

end Date

/-- The year that a number of days after the first of January of the year 1 falls in: an estimate
from the mean length of a year, put right by one where needed. -/
def yearOfDay (n : Int) : Int :=
  let y := n * 400 / 146097 + 1
  if n < daysBeforeYear y then y - 1
  else if daysBeforeYear (y + 1) ≤ n then y + 1
  else y

/-- The month and the day of a day of the year counted from zero, searched from month `m` on. -/
def monthOfDay (y : Int) (n : Nat) : (left m : Nat) → Nat × Nat
  | 0, m => (m, n + 1)
  | left + 1, m =>
    if n < daysInMonth y m then (m, n + 1)
    else monthOfDay y (n - daysInMonth y m) left (m + 1)

/-- The date of a day number. -/
def Date.ofDayNumber (n : Int) : Date :=
  let days := n + epochDay
  let year := yearOfDay days
  let (month, day) := monthOfDay year (days - daysBeforeYear year).toNat 11 1
  ⟨year, month, day⟩

/-- The date of a day number, if its year is in range. -/
def Date.ofDayNumber? (n : Int) : Option Date :=
  let d := ofDayNumber n
  if firstYear ≤ d.year ∧ d.year ≤ lastYear then some d else none

theorem daysBeforeYear_succ (y : Int) :
    daysBeforeYear (y + 1) = daysBeforeYear y + daysInYear y := by
  unfold daysBeforeYear daysInYear isLeapYear
  by_cases h4 : y % 4 = 0 <;> by_cases h100 : y % 100 = 0 <;> by_cases h400 : y % 400 = 0 <;>
    simp [h4, h100, h400] <;> omega

theorem yearOfDay_bounds (n : Int) :
    daysBeforeYear (yearOfDay n) ≤ n ∧ n < daysBeforeYear (yearOfDay n + 1) := by
  unfold yearOfDay
  simp only
  split
  · next h =>
    rw [Int.sub_add_cancel]
    refine ⟨?_, h⟩
    unfold daysBeforeYear
    omega
  · split
    · next h =>
      refine ⟨h, ?_⟩
      unfold daysBeforeYear
      omega
    · omega

/-- The day of the week, counted from zero on Monday. -/
def Date.weekday (d : Date) : Nat := ((d.dayNumber + 3) % 7).toNat

/-- The day of the week, counted from zero on Sunday. -/
def Date.weekdayFromSunday (d : Date) : Nat := (d.weekday + 1) % 7

/-- The number of weeks of a year begun by a day, where `sinceStart` days have passed since the day
that weeks start with. -/
def Date.weekOfYear (d : Date) (sinceStart : Nat) : Nat := (d.dayOfYear + 6 - sinceStart) / 7

/-- The year and the number of the week that a date lies in; weeks start on Monday and belong to the
year of their Thursday. -/
def Date.isoWeek (d : Date) : Int × Nat :=
  let thursday := Date.ofDayNumber (d.dayNumber + 3 - d.weekday)
  (thursday.year, (thursday.dayOfYear - 1) / 7 + 1)

/-- The date some months later, on the last day of the month where the month is too short. -/
def Date.addMonths? (d : Date) (months : Int) : Option Date :=
  let total := d.year * 12 + (d.month - 1 : Int) + months
  let year := total / 12
  let month := (total % 12).toNat + 1
  Date.of? year month (min d.day (daysInMonth year month))

/-- The date some days later. -/
def Date.addDays? (d : Date) (days : Int) : Option Date := Date.ofDayNumber? (d.dayNumber + days)

end Stencil.Calendar
