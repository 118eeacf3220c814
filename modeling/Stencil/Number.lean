import Stencil.Decimal.Layout
import Stencil.Decimal.Reader

/-!
Numbers of templates: 64-bit integers, which stay exact, and floating-point numbers. Integers are
compared exactly with each other and as floating-point numbers with the rest.
-/
namespace Stencil

inductive Number where
  | int (n : Int64)
  | float (x : Float)

namespace Number

open Decimal

/-- The integer of a mathematical whole number, if it fits in 64 bits. -/
def ofInt? (n : Int) : Option Number :=
  if Int64.minValue.toInt ≤ n ∧ n ≤ Int64.maxValue.toInt then some (.int (Int64.ofInt n)) else none

/-- A whole number as an integer where it fits, else as the nearest floating-point number. -/
def ofInt (n : Int) : Number := (ofInt? n).getD (.float (Float.ofInt n))

def ofNat (n : Nat) : Number := ofInt n

def toFloat : Number → Float
  | .int n => Float.ofInt n.toInt
  | .float x => x

/-- Whole floating-point numbers below this bound are taken for integers. -/
def wholeBound : Float := 9.0e15

/-- Whether a floating-point number is taken for an integer. -/
def isIntegral (x : Float) : Bool := isWhole x && x.abs < wholeBound

/-- The integer a number stands for: itself, or that of a whole float of moderate size. -/
def toInt64? : Number → Option Int64
  | .int n => some n
  | .float x => if isIntegral x then some (saturate x) else none

/-- The number of a float: an integer where it stands for one. -/
def ofFloat (x : Float) : Number := if isIntegral x then .int (saturate x) else .float x

def isZero : Number → Bool
  | .int n => n == 0
  | .float x => orderKey x == some 0

def isNaN (n : Number) : Bool := (orderKey n.toFloat).isNone

/-- The order of two numbers; none if one of them is not a number. -/
def compare? : Number → Number → Option Ordering
  | .int a, .int b => some (compare a.toInt b.toInt)
  | a, b => do some (compare (← orderKey a.toFloat) (← orderKey b.toFloat))

instance : BEq Number where
  beq a b := a.compare? b == some .eq

/-- Whole floats below this bound are written without a fraction and without a negative zero. -/
def plainBound : Float := 1.0e15

/-- The text of a number inside a template. -/
def text : Number → String
  | .int n => wholeText n.toInt
  | .float x =>
    match Binary64.ofFloat x with
    | .nan => "NaN"
    | .infinite negative => if negative then "-Infinity" else "Infinity"
    | .finite d =>
      if d.isWhole && x.abs < plainBound then wholeText d.truncate
      else withSign d.negative (positional (shortest .up d))

/-- The text of a float in a data format: positional from five places behind the point to sixteen
in front of it, always with a point or a power of ten; null where there are no digits. -/
def floatJson (x : Float) : String :=
  match Binary64.ofFloat x with
  | .finite d =>
    let digits := shortest .toEven d
    let power := leadingExponent digits
    withSign d.negative <|
      if -5 ≤ power && power < 16 then
        positional digits ++ if 0 ≤ digits.exponent then ".0".toList else []
      else scientific digits
  | _ => "null"

/-- The text of a number in a data format. -/
def json : Number → String
  | .int n => wholeText n.toInt
  | .float x => floatJson x

end Number

end Stencil
