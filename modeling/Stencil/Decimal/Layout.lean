import Stencil.Decimal.Shortest

/-!
Written forms of decimals: with a point among the digits, or as digits and a power of ten.
-/
namespace Stencil.Decimal

/-- The digits of a natural number, first digit first. -/
def digitChars (n : Nat) : List Char := Nat.toDigits 10 n

/-- The text of a whole number. -/
def wholeText (n : Int) : String :=
  match n with
  | .ofNat n => String.ofList (digitChars n)
  | .negSucc n => String.ofList ('-' :: digitChars (n + 1))

def zeros (n : Nat) : List Char := List.replicate n '0'

/-- Digits with a point, and no point in a whole number. -/
def positional (d : Numeral) : List Char :=
  let ds := digitChars d.digits
  if 0 ≤ d.exponent then ds ++ zeros d.exponent.toNat
  else
    let places := (-d.exponent).toNat
    if places < ds.length then
      ds.take (ds.length - places) ++ '.' :: ds.drop (ds.length - places)
    else '0' :: '.' :: zeros (places - ds.length) ++ ds

/-- One digit before the point, and a power of ten with its sign. -/
def scientific (d : Numeral) : List Char :=
  let ds := digitChars d.digits
  let power := d.exponent + (ds.length - 1 : Nat)
  let sign := if power < 0 then '-' else '+'
  let fraction := ds.drop 1
  ds.take 1 ++ (if fraction.isEmpty then [] else '.' :: fraction) ++
    'e' :: sign :: digitChars power.natAbs

/-- The power of ten of the first digit. -/
def leadingExponent (d : Numeral) : Int :=
  d.exponent + ((digitChars d.digits).length - 1 : Nat)

/-- Writes a sign in front of the form of a magnitude. -/
def withSign (negative : Bool) (body : List Char) : String :=
  String.ofList (if negative then '-' :: body else body)

/-- The fewest digits that name a number, never with a power of ten; `inf` and `NaN` otherwise. -/
def plainText (x : Float) : String :=
  match Binary64.ofFloat x with
  | .finite d => withSign d.negative (positional (shortest .up d))
  | .infinite negative => withSign negative "inf".toList
  | .nan => "NaN"

end Stencil.Decimal
