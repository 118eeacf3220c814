import Stencil.Decimal.Layout
import Stencil.Text.Class

/-!
Reading numbers. Whole numbers are digits with an optional sign; floating-point numbers may have a
point, a power of ten and the names of the values without digits, and are rounded once.
-/
namespace Stencil.Decimal

open Text

def digitValue (c : Char) : Nat := c.toNat - '0'.toNat

/-- The number that a run of digits names. -/
def digitsValue (ds : List Char) : Nat := ds.foldl (fun n c => 10 * n + digitValue c) 0

/-- One or more digits and nothing else. -/
def natural? (s : List Char) : Option Nat :=
  if !s.isEmpty && s.all isAsciiDigit then some (digitsValue s) else none

/-- An optional sign in front of the rest. -/
def splitSign : List Char → Bool × List Char
  | '-' :: rest => (true, rest)
  | '+' :: rest => (false, rest)
  | rest => (false, rest)

/-- A whole number of any size with an optional sign. -/
def whole? (s : List Char) : Option Int :=
  let (negative, digits) := splitSign s
  (natural? digits).map fun n => if negative then -(n : Int) else n

/-- A whole number with an optional sign that fits in 64 bits. -/
def word? (s : List Char) : Option Int64 :=
  match whole? s with
  | some n =>
    if Int64.minValue.toInt ≤ n ∧ n ≤ Int64.maxValue.toInt then some (Int64.ofInt n) else none
  | none => none

/-- The floating-point number nearest to a decimal. Far outside the range of exponents the answer
is known without computing the power of ten. -/
def nearest (d : Numeral) : Float :=
  let leading := leadingExponent d
  if d.digits = 0 || leading < -400 then 0.0
  else if 400 < leading then 1.0 / 0.0
  else if d.exponent < 0 then Float.ofScientific d.digits true (-d.exponent).toNat
  else Float.ofScientific d.digits false d.exponent.toNat

/-- Digits with an optional point, at least one digit in all, as a decimal and the rest. -/
def mantissa? (s : List Char) : Option (Numeral × List Char) :=
  let whole := s.takeWhile isAsciiDigit
  let rest := s.dropWhile isAsciiDigit
  match rest with
  | '.' :: rest =>
    let fraction := rest.takeWhile isAsciiDigit
    if whole.isEmpty && fraction.isEmpty then none
    else some (⟨digitsValue (whole ++ fraction), -(fraction.length : Int)⟩,
      rest.dropWhile isAsciiDigit)
  | _ => if whole.isEmpty then none else some (⟨digitsValue whole, 0⟩, rest)

/-- A power of ten, or nothing at all. -/
def exponent? (s : List Char) : Option Int :=
  match s with
  | [] => some 0
  | e :: rest => if e == 'e' || e == 'E' then whole? rest else none

/-- An unsigned floating-point number. -/
def magnitude? (s : List Char) : Option Float :=
  if eqIgnoringCase s "inf".toList || eqIgnoringCase s "infinity".toList then some (1.0 / 0.0)
  else if eqIgnoringCase s "nan".toList then some (0.0 / 0.0)
  else do
    let (d, rest) ← mantissa? s
    let power ← exponent? rest
    some (nearest { d with exponent := d.exponent + power })

/-- A floating-point number with an optional sign. -/
def float? (s : List Char) : Option Float :=
  let (negative, rest) := splitSign s
  (magnitude? rest).map fun x => if negative then -x else x

end Stencil.Decimal
