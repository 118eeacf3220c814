/-!
Binary floating-point numbers of 64 bits as exact quantities. Every finite number is a whole
number of units times a power of two, so its digits, its whole part and its order are decided in
whole-number arithmetic, and none of them depends on a rounding step.
-/
namespace Stencil.Decimal

/-- The quantity `mantissa * 2 ^ exponent`, with a sign that also zero has. -/
structure Dyadic where
  negative : Bool
  mantissa : Nat
  exponent : Int
  deriving DecidableEq, Repr

inductive Binary64 where
  | finite (x : Dyadic)
  | infinite (negative : Bool)
  | nan
  deriving DecidableEq, Repr

/-- The significand bits that are stored. -/
def significandSize : Nat := Nat.pow 2 52

/-- Decodes a sign bit, eleven exponent bits and fifty-two significand bits. -/
def Binary64.ofBits (bits : Nat) : Binary64 :=
  let negative : Bool := bits ≥ Nat.pow 2 63
  let fraction : Nat := bits % significandSize
  let biased : Nat := bits / significandSize % Nat.pow 2 11
  if biased = 2047 then
    if fraction = 0 then .infinite negative else .nan
  else if biased = 0 then .finite ⟨negative, fraction, -1074⟩
  else .finite ⟨negative, significandSize + fraction, (biased : Int) - 1075⟩

def Binary64.ofFloat (x : Float) : Binary64 := ofBits x.toBits.toNat

namespace Dyadic

/-- The greatest whole number not above the magnitude. -/
def wholeMagnitude (x : Dyadic) : Nat :=
  if x.exponent < 0 then x.mantissa / Nat.pow 2 (-x.exponent).toNat
  else x.mantissa * Nat.pow 2 x.exponent.toNat

/-- Whether nothing stands behind the binary point. -/
def isWhole (x : Dyadic) : Bool :=
  0 ≤ x.exponent || x.mantissa % Nat.pow 2 (-x.exponent).toNat == 0

/-- The quantity with its fraction cut off. -/
def truncate (x : Dyadic) : Int :=
  if x.negative then -(x.wholeMagnitude : Int) else x.wholeMagnitude

def floor (x : Dyadic) : Int :=
  if x.negative && !x.isWhole then x.truncate - 1 else x.truncate

def ceil (x : Dyadic) : Int :=
  if !x.negative && !x.isWhole then x.truncate + 1 else x.truncate

/-- The nearest whole number; a half goes away from zero. -/
def round (x : Dyadic) : Int :=
  let doubled : Dyadic := { x with exponent := x.exponent + 1 }
  let magnitude := (doubled.wholeMagnitude + 1) / 2
  if x.negative then -(magnitude : Int) else magnitude

end Dyadic

/-- A number that orders floating-point numbers as their quantities are ordered, with the two zeros
alike; none for the value that is not a number. -/
def orderKey (x : Float) : Option Int :=
  let bits := x.toBits.toNat
  let magnitude := bits % Nat.pow 2 63
  if magnitude > 2047 * significandSize then none
  else if bits ≥ Nat.pow 2 63 then some (-(magnitude : Int)) else some magnitude

/-- The floating-point number of a quantity that has one. -/
def Dyadic.toFloat (x : Dyadic) : Float :=
  let magnitude :=
    if x.exponent < 0 then
      -- both factors and every intermediate result are representable
      let half := (-x.exponent).toNat / 2
      let rest := (-x.exponent).toNat - half
      Float.ofNat x.mantissa / Float.ofNat (Nat.pow 2 half) / Float.ofNat (Nat.pow 2 rest)
    else Float.ofNat (x.mantissa * Nat.pow 2 x.exponent.toNat)
  if x.negative then -magnitude else magnitude

/-- A whole number as a floating-point number that keeps the sign of a negative zero. -/
def signedWhole (negative : Bool) (n : Int) : Float :=
  if negative && n == 0 then -0.0 else Float.ofInt n

/-- Applies a rounding of quantities to a floating-point number; the result has the sign of the
argument, also when it is zero. -/
def roundWith (f : Dyadic → Int) (x : Float) : Float :=
  match Binary64.ofFloat x with
  | .finite d => signedWhole d.negative (f d)
  | _ => x

/-- The magnitude in units of two to the power `e`, which is not above its own exponent. -/
def Dyadic.inUnits (x : Dyadic) (e : Int) : Nat := x.mantissa * Nat.pow 2 (x.exponent - e).toNat

/-- The remainder of a division whose quotient is cut off to a whole number. It has the sign of the
dividend; there is none for an infinite dividend or a zero divisor. -/
def remainder (x y : Float) : Float :=
  match Binary64.ofFloat x, Binary64.ofFloat y with
  | .finite a, .finite b =>
    if b.mantissa = 0 then 0.0 / 0.0
    else
      let e := min a.exponent b.exponent
      Dyadic.toFloat ⟨a.negative, a.inUnits e % b.inUnits e, e⟩
  | .finite _, .infinite _ => x
  | _, _ => 0.0 / 0.0

def isFinite (x : Float) : Bool :=
  match Binary64.ofFloat x with
  | .finite _ => true
  | _ => false

/-- Whether a floating-point number is finite and without a fraction. -/
def isWhole (x : Float) : Bool :=
  match Binary64.ofFloat x with
  | .finite d => d.isWhole
  | _ => false

/-- Cuts a number off to a whole number and brings it into the range of 64-bit words; zero for the
value that is not a number. -/
def saturate (x : Float) : Int64 :=
  let clamp (n : Int) : Int64 :=
    if n < Int64.minValue.toInt then Int64.minValue
    else if Int64.maxValue.toInt < n then Int64.maxValue
    else Int64.ofInt n
  match Binary64.ofFloat x with
  | .finite d => clamp d.truncate
  | .infinite negative => if negative then Int64.minValue else Int64.maxValue
  | .nan => 0

end Stencil.Decimal
