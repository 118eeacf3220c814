import Stencil.Calendar.Moment
import Stencil.Decimal.Layout

/-!
Patterns that moments are written with. A percent sign and a letter stand for a part of the moment,
perhaps with a choice of what fills it up to its width; everything else stands for itself. A pattern
that asks for a part that the moment does not have, or that is not made up like this, has no result.
-/
namespace Stencil.Calendar

open Decimal

/-- What fills a number up to its width. -/
inductive Padding where
  | none
  | zero
  | space
  deriving DecidableEq, Repr

/-- A numeric part of a moment. -/
inductive Field where
  | year
  | century
  | yearOfCentury
  | isoYear
  | isoYearOfCentury
  | quarter
  | month
  | day
  | weekFromSunday
  | weekFromMonday
  | isoWeek
  | weekdayFromSunday
  | weekdayFromMonday
  | dayOfYear
  | hour
  | hour12
  | minute
  | second
  | nanosecond
  | timestamp
  deriving DecidableEq, Repr

inductive Item where
  | literal (s : List Char)
  | numeric (field : Field) (padding : Padding)
  | monthName (long : Bool)
  | weekdayName (long : Bool)
  | dayHalf (upper : Bool)
  | fraction (digits : Nat) (point : Bool)
  | briefFraction
  deriving DecidableEq, Repr

private def zeroed (field : Field) : Item := .numeric field .zero

private def text (s : String) : Item := .literal s.toList

/-- The items of a date with slashes. -/
def slashedDate : List Item :=
  [zeroed .month, text "/", zeroed .day, text "/", zeroed .yearOfCentury]

/-- The items of a time of day. -/
def clockTime : List Item := [zeroed .hour, text ":", zeroed .minute, text ":", zeroed .second]

/-- What a letter behind a percent sign stands for. -/
def letterItems : Char → Option (List Item)
  | 'A' => some [.weekdayName true]
  | 'B' => some [.monthName true]
  | 'C' => some [zeroed .century]
  | 'D' => some slashedDate
  | 'F' => some [zeroed .year, text "-", zeroed .month, text "-", zeroed .day]
  | 'G' => some [zeroed .isoYear]
  | 'H' => some [zeroed .hour]
  | 'I' => some [zeroed .hour12]
  | 'M' => some [zeroed .minute]
  | 'P' => some [.dayHalf false]
  | 'R' => some [zeroed .hour, text ":", zeroed .minute]
  | 'S' => some [zeroed .second]
  | 'T' => some clockTime
  | 'U' => some [zeroed .weekFromSunday]
  | 'V' => some [zeroed .isoWeek]
  | 'W' => some [zeroed .weekFromMonday]
  | 'X' => some clockTime
  | 'Y' => some [zeroed .year]
  | 'a' => some [.weekdayName false]
  | 'b' => some [.monthName false]
  | 'c' =>
    some ([.weekdayName false, text " ", .monthName false, text " ", .numeric .day .space, text " "]
      ++ clockTime ++ [text " ", zeroed .year])
  | 'd' => some [zeroed .day]
  | 'e' => some [.numeric .day .space]
  | 'f' => some [zeroed .nanosecond]
  | 'g' => some [zeroed .isoYearOfCentury]
  | 'h' => some [.monthName false]
  | 'j' => some [zeroed .dayOfYear]
  | 'k' => some [.numeric .hour .space]
  | 'l' => some [.numeric .hour12 .space]
  | 'm' => some [zeroed .month]
  | 'n' => some [text "\n"]
  | 'p' => some [.dayHalf true]
  | 'q' => some [.numeric .quarter .none]
  | 'r' =>
    some [zeroed .hour12, text ":", zeroed .minute, text ":", zeroed .second, text " ",
      .dayHalf true]
  | 's' => some [.numeric .timestamp .none]
  | 't' => some [text "\t"]
  | 'u' => some [.numeric .weekdayFromMonday .none]
  | 'v' => some [.numeric .day .space, text "-", .monthName false, text "-", zeroed .year]
  | 'w' => some [.numeric .weekdayFromSunday .none]
  | 'x' => some slashedDate
  | 'y' => some [zeroed .yearOfCentury]
  | '%' => some [text "%"]
  | _ => none

/-- The items at the front of a text behind a percent sign, and what follows them. -/
def takeItems : List Char → Option (List Item × List Char)
  | '.' :: 'f' :: s => some ([.briefFraction], s)
  | '.' :: '3' :: 'f' :: s => some ([.fraction 3 true], s)
  | '.' :: '6' :: 'f' :: s => some ([.fraction 6 true], s)
  | '.' :: '9' :: 'f' :: s => some ([.fraction 9 true], s)
  | '3' :: 'f' :: s => some ([.fraction 3 false], s)
  | '6' :: 'f' :: s => some ([.fraction 6 false], s)
  | '9' :: 'f' :: s => some ([.fraction 9 false], s)
  | c :: s => (letterItems c).map fun items => (items, s)
  | [] => none

/-- The padding that a character behind a percent sign asks for. -/
def paddingFor : Char → Option Padding
  | '-' => some .none
  | '0' => some .zero
  | '_' => some .space
  | _ => none

/-- The items behind a percent sign. Only a single number can be padded otherwise. -/
def takeDirective : List Char → Option (List Item × List Char)
  | [] => none
  | c :: s =>
    match paddingFor c with
    | none => takeItems (c :: s)
    | some p =>
      match takeItems s with
      | some ([.numeric field _], rest) => some ([.numeric field p], rest)
      | _ => none

theorem length_le_of_takeItems {s rest : List Char} {items : List Item}
    (h : takeItems s = some (items, rest)) : rest.length ≤ s.length := by
  unfold takeItems at h
  split at h
  case h_8 =>
    obtain ⟨_, _, he⟩ := Option.map_eq_some_iff.mp h
    simp only [Prod.mk.injEq] at he
    simp [← he.2]
  case h_9 => simp at h
  all_goals
    simp only [Option.some.injEq, Prod.mk.injEq] at h
    simp only [← h.2, List.length_cons]
    omega

theorem length_le_of_takeDirective {s rest : List Char} {items : List Item}
    (h : takeDirective s = some (items, rest)) : rest.length ≤ s.length := by
  unfold takeDirective at h
  split at h
  · simp at h
  · split at h
    · exact length_le_of_takeItems h
    · split at h
      · next ht =>
        simp only [Option.some.injEq, Prod.mk.injEq] at h
        exact h.2 ▸ Nat.le_succ_of_le (length_le_of_takeItems ht)
      · simp at h

/-- The items of a pattern, after those found already, last group first. -/
def itemsFrom (found : List (List Item)) (s : List Char) : Option (List Item) :=
  match s with
  | [] => some found.reverse.flatten
  | c :: rest =>
    if c == '%' then
      match _h : takeDirective rest with
      | some (items, rest) => itemsFrom (items :: found) rest
      | none => none
    else itemsFrom ([.literal [c]] :: found) rest
termination_by s.length
decreasing_by
  · exact Nat.lt_succ_of_le (length_le_of_takeDirective (by assumption))
  · exact Nat.lt_succ_self _

/-- The items of a pattern. -/
def items? (pattern : List Char) : Option (List Item) := itemsFrom [] pattern

/-- A number filled up to a width. -/
def padded (padding : Padding) (width : Nat) (n : Nat) : List Char :=
  let ds := digitChars n
  match padding with
  | .none => ds
  | .zero => zeros (width - ds.length) ++ ds
  | .space => List.replicate (width - ds.length) ' ' ++ ds

/-- A number with two digits. It is taken modulo 256, and what exceeds two digits goes on through
the characters behind the nine. -/
def twoDigits (padding : Padding) (n : Int) : List Char :=
  let v := (n % 256).toNat
  let ones := Char.ofNat ('0'.toNat + v % 10)
  match v / 10, padding with
  | 0, .none => [ones]
  | 0, .space => [' ', ones]
  | tens, _ => [Char.ofNat ('0'.toNat + tens), ones]

/-- A whole number filled up to a width that includes its sign. -/
def signed (padding : Padding) (width : Nat) (alwaysSign : Bool) (n : Int) : List Char :=
  let sign := if n < 0 then ['-'] else if alwaysSign then ['+'] else []
  let ds := digitChars n.natAbs
  let missing := width - (sign.length + ds.length)
  match padding with
  | .none => sign ++ ds
  | .zero => sign ++ zeros missing ++ ds
  | .space => List.replicate missing ' ' ++ sign ++ ds

/-- A year has four digits, or a sign. -/
def yearText (padding : Padding) (y : Int) : List Char :=
  if 0 ≤ y ∧ y < 10000 then signed padding 4 false y else signed padding 5 true y

def monthNames : List String :=
  ["January", "February", "March", "April", "May", "June", "July", "August", "September",
   "October", "November", "December"]

/-- The names of the days of a week, from Monday on. -/
def weekdayNames : List String :=
  ["Monday", "Tuesday", "Wednesday", "Thursday", "Friday", "Saturday", "Sunday"]

/-- A name, or its first three letters. -/
def nameText (names : List String) (i : Nat) (long : Bool) : List Char :=
  let name := (names.getD i "").toList
  if long then name else name.take 3

/-- A numeric part of a date. -/
def dateField (padding : Padding) (d : Date) : Field → Option (List Char)
  | .year => some (yearText padding d.year)
  | .century => some (twoDigits padding (d.year / 100))
  | .yearOfCentury => some (twoDigits padding (d.year % 100))
  | .isoYear => some (yearText padding d.isoWeek.1)
  | .isoYearOfCentury => some (twoDigits padding (d.isoWeek.1 % 100))
  | .quarter => some (digitChars ((d.month - 1) / 3 + 1))
  | .month => some (twoDigits padding d.month)
  | .day => some (twoDigits padding d.day)
  | .weekFromSunday => some (twoDigits padding (d.weekOfYear d.weekdayFromSunday))
  | .weekFromMonday => some (twoDigits padding (d.weekOfYear d.weekday))
  | .isoWeek => some (twoDigits padding d.isoWeek.2)
  | .weekdayFromSunday => some (digitChars d.weekdayFromSunday)
  | .weekdayFromMonday => some (digitChars (d.weekday + 1))
  | .dayOfYear => some (padded padding 3 d.dayOfYear)
  | _ => none

/-- A numeric part of a time of day. -/
def timeField (padding : Padding) (t : Time) : Field → Option (List Char)
  | .hour => some (twoDigits padding t.hour)
  | .hour12 => some (twoDigits padding t.hour12)
  | .minute => some (twoDigits padding t.minute)
  | .second => some (twoDigits padding t.secondOfMinute)
  | .nanosecond => some (padded padding 9 t.fraction)
  | _ => none

/-- The first digits of the nine behind the second. -/
def fractionDigits (digits nanos : Nat) : List Char :=
  padded .zero digits (nanos / Nat.pow 10 (9 - digits))

/-- The fraction of a second in three, six or nine digits, as many as it takes; nothing if there is
none. -/
def briefFractionText (nanos : Nat) : List Char :=
  if nanos = 0 then []
  else if nanos % 1000000 = 0 then '.' :: fractionDigits 3 nanos
  else if nanos % 1000 = 0 then '.' :: fractionDigits 6 nanos
  else '.' :: fractionDigits 9 nanos

/-- An item of a date and perhaps a time of day. -/
def itemText (d : Date) (t : Option Time) : Item → Option (List Char)
  | .literal s => some s
  | .monthName long => some (nameText monthNames (d.month - 1) long)
  | .weekdayName long => some (nameText weekdayNames d.weekday long)
  | .numeric .timestamp padding =>
    t.map fun t => signed padding 9 false (DateTime.timestamp ⟨d, t⟩)
  | .numeric field padding => (dateField padding d field).or (t.bind (timeField padding · field))
  | .dayHalf upper =>
    t.map fun t =>
      match upper, t.isAfternoon with
      | true, true => "PM".toList
      | true, false => "AM".toList
      | false, true => "pm".toList
      | false, false => "am".toList
  | .fraction digits point =>
    t.map fun t =>
      let ds := fractionDigits digits t.fraction
      if point then '.' :: ds else ds
  | .briefFraction => t.map fun t => briefFractionText t.fraction

/-- The date and the time of day of a moment. -/
def Moment.parts : Moment → Date × Option Time
  | .date d => (d, none)
  | .dateTime dt => (dt.date, some dt.time)

/-- A moment written with a pattern. -/
def Moment.format? (m : Moment) (pattern : List Char) : Option (List Char) := do
  let items ← items? pattern
  let texts ← items.mapM (itemText m.parts.1 m.parts.2)
  return texts.flatten

def datePattern : String := "%Y-%m-%d"

def dateTimePattern : String := "%Y-%m-%d %H:%M:%S"

/-- A date as year, month and day. -/
def dateText (d : Date) : List Char :=
  yearText .zero d.year ++ '-' :: padded .zero 2 d.month ++ '-' :: padded .zero 2 d.day

/-- A time of day as hour, minute and second. -/
def timeText (t : Time) : List Char :=
  padded .zero 2 t.hour ++ ':' :: padded .zero 2 t.minute ++ ':' :: padded .zero 2 t.secondOfMinute

/-- The usual text of a moment; fractions of a second are not written. -/
def Moment.render : Moment → List Char
  | .date d => dateText d
  | .dateTime dt => dateText dt.date ++ ' ' :: timeText dt.time

end Stencil.Calendar
