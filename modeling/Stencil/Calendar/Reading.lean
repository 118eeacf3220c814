import Stencil.Calendar.Moment
import Stencil.Text.Blank
import Stencil.Decimal.Reader

/-!
Reading moments from text: a date and a time with an offset from universal time, which is read and
then ignored, as the time of day is taken as it stands; a date and a time with a blank or a `T`
between them; or a date alone.
-/
namespace Stencil.Calendar

open Text Decimal

/-- Takes something from the front of a text. -/
abbrev Take (α : Type) := List Char → Option (α × List Char)

/-- Takes at least `low` and at most `high` digits. -/
def takeNumber (low high : Nat) : Take Nat := fun s =>
  let digits := (s.take high).takeWhile isAsciiDigit
  if digits.length < low then none else some (digitsValue digits, s.drop digits.length)

/-- Takes one character. -/
def takeChar (c : Char) : Take Unit
  | [] => none
  | d :: s => if d == c then some ((), s) else none

/-- Takes the digits of a fraction of a second, as nanoseconds. Digits after the ninth are
skipped. -/
def takeFraction : Take Nat := fun s => do
  let digits := (s.take 9).takeWhile isAsciiDigit
  if digits.isEmpty then none
  else some (digitsValue digits * Nat.pow 10 (9 - digits.length), s.dropWhile isAsciiDigit)

/-- Takes a sign; the minus sign has two forms. -/
def takeSign : Take Unit
  | '+' :: s => some ((), s)
  | '-' :: s => some ((), s)
  | '−' :: s => some ((), s)
  | _ => none

/-- The greatest offset from universal time, in minutes. -/
def offsetLimit : Nat := 23 * 60 + 59

/-- Takes an offset from universal time. -/
def takeOffset : Take Unit
  | 'Z' :: s => some ((), s)
  | 'z' :: s => some ((), s)
  | s => do
    let (_, s) ← takeSign s
    let (hours, s) ← takeNumber 2 2 s
    let (_, s) ← takeChar ':' s
    let (minutes, s) ← takeNumber 2 2 s
    if minutes < 60 && hours * 60 + minutes ≤ offsetLimit then some ((), s) else none

/-- Takes what stands between a date and a time with an offset. -/
def takeSeparator : Take Unit
  | 'T' :: s => some ((), s)
  | 't' :: s => some ((), s)
  | ' ' :: s => some ((), s)
  | _ => none

/-- Takes a date of fixed width. -/
def takeFixedDate : Take Date := fun s => do
  let (year, s) ← takeNumber 4 4 s
  let (_, s) ← takeChar '-' s
  let (month, s) ← takeNumber 2 2 s
  let (_, s) ← takeChar '-' s
  let (day, s) ← takeNumber 2 2 s
  some (← Date.of? year month day, s)

/-- Takes a point and a fraction of a second, if there is a point. -/
def takePointFraction : Take Nat
  | '.' :: s => takeFraction s
  | s => some (0, s)

/-- Takes a time of fixed width, perhaps with a fraction of a second. -/
def takeFixedTime : Take Time := fun s => do
  let (hour, s) ← takeNumber 2 2 s
  let (_, s) ← takeChar ':' s
  let (minute, s) ← takeNumber 2 2 s
  let (_, s) ← takeChar ':' s
  let (second, s) ← takeNumber 2 2 s
  let (nanos, s) ← takePointFraction s
  some (← Time.of? hour minute second nanos, s)

/-- A date and a time of fixed width, with an offset. -/
def readWithOffset? (s : List Char) : Option DateTime := do
  let (date, s) ← takeFixedDate s
  let (_, s) ← takeSeparator s
  let (time, s) ← takeFixedTime s
  let (_, s) ← takeOffset s
  if s.isEmpty then some ⟨date, time⟩ else none

/-- Takes a number of at most two digits, with blanks in front. -/
def takeField : Take Nat := fun s => takeNumber 1 2 (trimStart s)

/-- Takes a year, with blanks in front: up to four digits, or any number of digits with a sign. -/
def takeYear : Take Int := fun s =>
  match trimStart s with
  | '-' :: rest => (takeNumber 1 rest.length rest).map fun (n, s) => (-(n : Int), s)
  | '+' :: rest => (takeNumber 1 rest.length rest).map fun (n, s) => ((n : Int), s)
  | s => (takeNumber 1 4 s).map fun (n, s) => ((n : Int), s)

/-- Takes a date whose parts need not be filled up with zeros. -/
def takeDate : Take Date := fun s => do
  let (year, s) ← takeYear s
  let (_, s) ← takeChar '-' s
  let (month, s) ← takeField s
  let (_, s) ← takeChar '-' s
  let (day, s) ← takeField s
  some (← Date.of? year month day, s)

/-- Takes a time whose parts need not be filled up with zeros. -/
def takeTime : Take Time := fun s => do
  let (hour, s) ← takeField s
  let (_, s) ← takeChar ':' s
  let (minute, s) ← takeField s
  let (_, s) ← takeChar ':' s
  let (second, s) ← takeField s
  some (← Time.of? hour minute second 0, s)

/-- The result of a taking that leaves nothing. -/
def whole? {α : Type} (take : Take α) (s : List Char) : Option α :=
  match take s with
  | some (a, []) => some a
  | _ => none

/-- A date and a time with an optional blank, or with a `T`, between them. -/
def takeDateTime (separated : Bool) : Take DateTime := fun s => do
  let (date, s) ← takeDate s
  let s ← if separated then (takeChar 'T' s).map Prod.snd else some s
  let (time, s) ← takeTime s
  some (⟨date, time⟩, s)

/-- The moment that a text names. -/
def Moment.read? (s : List Char) : Option Moment :=
  ((readWithOffset? s).map .dateTime).or <|
    ((whole? (takeDateTime false) s).map .dateTime).or <|
      ((whole? (takeDateTime true) s).map .dateTime).or <|
        (whole? takeDate s).map .date

end Stencil.Calendar
