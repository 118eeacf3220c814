import Stencil.Calendar.Date

/-!
Moments: dates with or without a time of day. The time of day may lie within a leap second, which is
counted as a second second at the end of its minute.
-/
namespace Stencil.Calendar

/-- Nanoseconds of a second. -/
def nanosPerSecond : Nat := 1000000000

def secondsPerDay : Nat := 86400

/-- A second of the day and nanoseconds in it; a full second of nanoseconds or more is a leap
second. -/
structure Time where
  second : Nat
  nanos : Nat
  deriving DecidableEq, Repr

namespace Time

def midnight : Time := ⟨0, 0⟩

/-- A time of day, if there is one with these numbers. The second 60 is a leap second. -/
def of? (hour minute second nanos : Nat) : Option Time :=
  if 24 ≤ hour ∨ 60 ≤ minute ∨ nanosPerSecond ≤ nanos then none
  else if second < 60 then some ⟨(hour * 60 + minute) * 60 + second, nanos⟩
  else if second = 60 then some ⟨(hour * 60 + minute) * 60 + 59, nanosPerSecond + nanos⟩
  else none

def hour (t : Time) : Nat := t.second / 3600

def minute (t : Time) : Nat := t.second / 60 % 60

/-- The second of the minute; 60 in a leap second. -/
def secondOfMinute (t : Time) : Nat := t.second % 60 + t.nanos / nanosPerSecond

/-- The hour on a clock of twelve hours. -/
def hour12 (t : Time) : Nat := if t.hour % 12 = 0 then 12 else t.hour % 12

def isAfternoon (t : Time) : Bool := 12 ≤ t.hour

/-- Nanoseconds behind the second of the clock. -/
def fraction (t : Time) : Nat := t.nanos % nanosPerSecond

/-- Nanoseconds from `s` to `t`. A leap second of the earlier one has passed at the later one. -/
def since (t s : Time) : Int :=
  let seconds : Int := (t.second : Int) - s.second
  let leap : Int :=
    if s.second < t.second ∧ nanosPerSecond ≤ s.nanos then 1
    else if t.second < s.second ∧ nanosPerSecond ≤ t.nanos then -1
    else 0
  (seconds + leap) * nanosPerSecond + ((t.nanos : Int) - s.nanos)

end Time

structure DateTime where
  date : Date
  time : Time
  deriving DecidableEq, Repr

inductive Moment where
  | date (d : Date)
  | dateTime (dt : DateTime)
  deriving DecidableEq, Repr

namespace DateTime

/-- The time that many seconds after the start of 1970. -/
def ofTimestamp? (seconds : Int) : Option DateTime := do
  let d ← Date.ofDayNumber? (seconds / secondsPerDay)
  some ⟨d, ⟨(seconds % secondsPerDay).toNat, 0⟩⟩

/-- Seconds since the start of 1970; a leap second is not counted. -/
def timestamp (dt : DateTime) : Int := dt.date.dayNumber * secondsPerDay + dt.time.second

/-- Nanoseconds from `s` to `dt`. -/
def since (dt s : DateTime) : Int :=
  (dt.date.dayNumber - s.date.dayNumber) * (secondsPerDay * nanosPerSecond) + dt.time.since s.time

end DateTime

namespace Moment

/-- A date counts as the start of its day. -/
def toDateTime : Moment → DateTime
  | .date d => ⟨d, .midnight⟩
  | .dateTime dt => dt

/-- Moves the date and keeps the time of day. -/
def mapDate? (f : Date → Option Date) : Moment → Option Moment
  | .date d => (f d).map .date
  | .dateTime dt => (f dt.date).map fun d => .dateTime { dt with date := d }

/-- Whole days from `a` to `b`, cut off toward zero. -/
def daysBetween (a b : Moment) : Int :=
  (b.toDateTime.since a.toDateTime).tdiv (secondsPerDay * nanosPerSecond)

end Moment

end Stencil.Calendar
