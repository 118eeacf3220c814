import Stencil.Library.Argument

/-!
Helpers that compute with numbers. All but the sum and the extremes work on floating-point numbers
and give an integer back where the result stands for one.
-/
namespace Stencil.Library.Arithmetic

open Decimal

/-- A function of one number. -/
def unary (f : Float → Float) : Builtin := fun args => do
  checkArity (.exactly 1) args
  return .number (.ofFloat (f (← numberArg args 0)))

/-- A function of two numbers; where it has no result, the result is zero. -/
def binary (f : Float → Float → Option Float) : Builtin := fun args => do
  checkArity (.exactly 2) args
  let x ← numberArg args 0
  let y ← numberArg args 1
  match f x y with
  | some z => return .number (.ofFloat z)
  | none => return .int 0

def constant (x : Float) : Builtin := fun args => do
  checkArity (.exactly 0) args
  return .float x

def floor : Builtin := unary (roundWith Dyadic.floor)

def ceil : Builtin := unary (roundWith Dyadic.ceil)

def add : Builtin := binary fun x y => some (x + y)

def subtract : Builtin := binary fun x y => some (x - y)

def multiply : Builtin := binary fun x y => some (x * y)

def divide : Builtin := binary fun x y => if y == 0.0 then none else some (x / y)

def modulo : Builtin := binary fun x y => if y == 0.0 then none else some (remainder x y)

def power : Builtin := binary fun x y => some (x.pow y)

/-- A power of ten; below one it is the reciprocal of a power. -/
def powerOfTen (n : Int) : Float :=
  if n < 0 then 1.0 / Float.ofNat (Nat.pow 10 (-n).toNat) else Float.ofNat (Nat.pow 10 n.toNat)

/-- Places behind the point that rounding can be asked for, in both directions. -/
def roundingLimit : Int := 15

/-- A number rounded to an integer, or to some places behind the point. -/
def round : Builtin := fun args => do
  checkArity (.between 1 2) args
  let x ← numberArg args 0
  match arg args 1 with
  | .null => return .number (.ofFloat (roundWith Dyadic.round x))
  | _ => do
    let digits := (← intArg args 1 0).toInt
    let scale := powerOfTen (max (-roundingLimit) (min digits roundingLimit))
    return .float (roundWith Dyadic.round (x * scale) / scale)

def abs : Builtin := fun args => do
  checkArity (.exactly 1) args
  match arg args 0 with
  | .number (.int n) => return .number (.ofInt n.toInt.natAbs)
  | _ => return .float (← numberArg args 0).abs

/-- The one of two items that goes before the other. -/
def moreExtreme (wanted : Ordering) (best v : Value) : Except HelperError Value :=
  match v.compare? best with
  | some o => .ok (if o == wanted then v else best)
  | none => complain (.notComparable v.kind best.kind)

/-- The items that are compared: those of a single sequence, or all arguments. -/
def candidates (args : List Value) : List Value :=
  match args with
  | [.seq items] => items
  | _ => args

/-- The first of the items that no other one precedes. -/
def extreme (wanted : Ordering) : Builtin := fun args =>
  match candidates args with
  | [] => complain .emptySequence
  | v :: rest => rest.foldlM (moreExtreme wanted) v

def min : Builtin := extreme .lt

def max : Builtin := extreme .gt

/-- A sum of two numbers, exact as long as both are integers and the sum fits. -/
def addNumbers (a b : Number) : Number :=
  match a, b with
  | .int x, .int y =>
    (Number.ofInt? (x.toInt + y.toInt)).getD (.float (a.toFloat + b.toFloat))
  | _, _ => .float (a.toFloat + b.toFloat)

/-- Adds an item to a total. -/
def addItem (total : Number) (v : Value) : Except HelperError Number :=
  match v with
  | .number n => .ok (addNumbers total n)
  | v => complain (.notSummable v.kind)

/-- The sum of a sequence, from a start if one is given. -/
def sum : Builtin := fun args => do
  checkArity (.between 1 2) args
  let items ← seqArg args 0
  let start ← match arg args 1 with
    | .null => pure (.int 0)
    | .number n => pure n
    | v => complain (.startNotNumeric v.kind)
  return .number (← items.foldlM addItem start)

def sqrt : Builtin := fun args => do
  checkArity (.exactly 1) args
  let x ← numberArg args 0
  if x < 0.0 then complain (.outsideDomain x)
  else return .number (.ofFloat x.sqrt)

/-- A number that has a logarithm. -/
def positive (x : Float) : Except HelperError Float :=
  if 0.0 < x then .ok x else complain (.outsideDomain x)

/-- The natural logarithm, or the logarithm to a base. -/
def log : Builtin := fun args => do
  checkArity (.between 1 2) args
  let x ← positive (← numberArg args 0)
  match arg args 1 with
  | .null => return .float x.log
  | _ => do
    let base ← positive (← numberArg args 1)
    if base == 1.0 then complain .logarithmBaseOne
    else return .float (x.log / base.log)

def log10 : Builtin := fun args => do
  checkArity (.exactly 1) args
  return .float (← positive (← numberArg args 0)).log10

def sin : Builtin := unary Float.sin

def cos : Builtin := unary Float.cos

def tan : Builtin := unary Float.tan

/-- The ratio of a circle's circumference to its diameter. -/
def pi : Builtin := constant (Float.ofBits 0x400921fb54442d18)

/-- The base of the natural logarithm. -/
def e : Builtin := constant (Float.ofBits 0x4005bf0a8b145769)

/-- The helpers of this module and the names they are called by. -/
def helpers : List (String × Builtin) :=
  [("round", round), ("floor", floor), ("ceil", ceil), ("abs", abs), ("min", min), ("max", max),
   ("sum", sum), ("add", add), ("subtract", subtract), ("multiply", multiply), ("divide", divide),
   ("modulo", modulo), ("power", power), ("sqrt", sqrt), ("log", log), ("log10", log10),
   ("sin", sin), ("cos", cos), ("tan", tan), ("pi", pi), ("e", e)]

end Stencil.Library.Arithmetic
