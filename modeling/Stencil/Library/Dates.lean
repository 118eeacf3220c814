import Stencil.Library.Argument
import Stencil.Library.Surroundings
import Stencil.Calendar.Pattern
import Stencil.Calendar.Reading

/-!
Helpers on dates. Dates are texts, or seconds since the start of 1970; a result has the shape of the
date it comes from, with or without a time of day. What is no date is passed on as it is.
-/
namespace Stencil.Library.Dates

open Calendar

/-- The moment that a value names. -/
def moment? : Value → Option Moment
  | .number n => do return .dateTime (← DateTime.ofTimestamp? (← n.toInt64?).toInt)
  | .string s => Moment.read? (Text.trim s.toList)
  | _ => none

def patternArg (args : List Value) (i : Nat) (default : String) : String :=
  if (arg args i).isNull then default else textArg args i

def formatMoment (m : Moment) (pattern : String) : Except HelperError Value :=
  match m.format? pattern.toList with
  | some s => .ok (.ofChars s)
  | none => complain (.invalidDateFormat pattern)

/-- The current time, written with a pattern. -/
def current (now : DateTime) (default : String) : Builtin := fun args => do
  checkArity (.between 0 1) args
  formatMoment (.dateTime now) (patternArg args 0 default)

def formatDate : Builtin := fun args => do
  checkArity (.between 1 2) args
  match moment? (arg args 0) with
  | some m => formatMoment m (patternArg args 1 datePattern)
  | none => return arg args 0

/-- Days that a date can be moved by. -/
def dayShiftLimit : Nat := Nat.pow 2 31

/-- Months that a date can be moved by. -/
def monthShiftLimit : Nat := Nat.pow 2 31

def addDaysTo (n : Int) (d : Date) : Option Date :=
  if n.natAbs < dayShiftLimit then d.addDays? n else none

def addMonthsTo (n : Int) (d : Date) : Option Date :=
  if n.natAbs < monthShiftLimit then d.addMonths? n else none

/-- Moves a date by a number of units. -/
def shift (move : Int → Date → Option Date) : Builtin := fun args => do
  checkArity (.exactly 2) args
  match moment? (arg args 0) with
  | none => return arg args 0
  | some m => do
    let n ← intArg args 1 0
    match m.mapDate? (move n.toInt) with
    | some shifted => return .ofChars shifted.render
    | none => complain .dateOutOfRange

def addDays : Builtin := shift addDaysTo

def addMonths : Builtin := shift addMonthsTo

def addYears : Builtin := shift fun n => addMonthsTo (12 * n)

/-- Whole days from the first date to the second one; zero if one of them is no date. -/
def diffDays : Builtin := fun args => do
  checkArity (.exactly 2) args
  match moment? (arg args 0), moment? (arg args 1) with
  | some a, some b => return .number (.ofInt (a.daysBetween b))
  | _, _ => return .int 0

/-- Whether a value is a text that names a moment. -/
def isDate : Value → Bool
  | .string s => (moment? (.string s)).isSome
  | _ => false

/-- A time of day as hour, minute and second. -/
def timePattern : String := "%H:%M:%S"

/-- The helpers of this module and the names they are called by. -/
def helpers (env : Surroundings) : List (String × Builtin) :=
  [("now", current env.now Calendar.dateTimePattern),
   ("date", current env.now Calendar.datePattern), ("time", current env.now timePattern),
   ("datetime", current env.now Calendar.dateTimePattern), ("format_date", formatDate),
   ("add_days", addDays), ("add_months", addMonths), ("add_years", addYears),
   ("diff_days", diffDays), ("is_date", predicate isDate)]

end Stencil.Library.Dates
