import Stencil.Expr.Error
import Stencil.Value.Equality
import Stencil.Value.Text
import Stencil.Text.Search

/-!
What the operators do with their operands. Integer results stay exact where they fit in 64 bits and
become floating-point numbers otherwise. The two logical operators depend on whether their right
operand is needed, so they have no meaning here.
-/
namespace Stencil.Expr

namespace BinaryOp

/-- The exact integer result of an operator that has one. -/
def whole? (op : BinaryOp) (x y : Int) : Option Int :=
  match op with
  | .add => some (x + y)
  | .sub => some (x - y)
  | .mul => some (x * y)
  | .rem => some (x.tmod y)
  | _ => none

/-- The floating-point result of an arithmetic operator. -/
def approximate (op : BinaryOp) (x y : Float) : Float :=
  match op with
  | .add => x + y
  | .sub => x - y
  | .mul => x * y
  | .div => x / y
  | _ => Decimal.remainder x y

def divides : BinaryOp → Bool
  | .div => true
  | .rem => true
  | _ => false

/-- The smallest 64-bit integer divided by minus one has no remainder among the integers. -/
def overflowsRem (x y : Int) : Bool := x == Int64.minValue.toInt && y == -1

/-- Addition, subtraction, multiplication, division and remainder of numbers. -/
def arithmetic (op : BinaryOp) (a b : Number) : Except EvalError Number :=
  if op.divides && b.isZero then .error .divisionByZero
  else
    let fallback := Number.float (op.approximate a.toFloat b.toFloat)
    match a, b with
    | .int x, .int y =>
      if op == .rem && overflowsRem x.toInt y.toInt then .ok fallback
      else .ok (((op.whole? x.toInt y.toInt).bind Number.ofInt?).getD fallback)
    | _, _ => .ok fallback

def invalid {α : Type} (op : BinaryOp) (left right : Value) : Except EvalError α :=
  .error (.operands op left.kind right.kind)

/-- Addition of numbers, or joining of texts and of sequences. -/
def plus (left right : Value) : Except EvalError Value :=
  match left, right with
  | .number a, .number b => (arithmetic .add a b).map .number
  | .string s, v => .ok (.string (s ++ v.text))
  | v, .string s => .ok (.string (v.text ++ s))
  | .seq a, .seq b => .ok (.seq (a ++ b))
  | l, r => invalid .add l r

/-- Whether an ordering satisfies a relational operator. -/
def admits (op : BinaryOp) (o : Ordering) : Bool :=
  match op with
  | .lt => o == .lt
  | .le => o != .gt
  | .gt => o == .gt
  | .ge => o != .lt
  | _ => false

/-- Membership in a sequence, among the names of a map, or as a part of a text. -/
def holds (op : BinaryOp) (needle haystack : Value) : Except EvalError Bool :=
  match haystack, needle with
  | .seq items, v => .ok (items.any (· == v))
  | .map entries, v => .ok (Record.contains entries v.text)
  | .string s, .string part => .ok (Text.containsPart part.toList s.toList)
  | h, v => invalid op v h

/-- Applies an operator to the values of its operands. -/
def apply (op : BinaryOp) (left right : Value) : Except EvalError Value :=
  match op with
  | .add => plus left right
  | .sub | .mul | .div | .rem =>
    match left, right with
    | .number a, .number b => (op.arithmetic a b).map .number
    | l, r => op.invalid l r
  | .eq => .ok (.bool (left == right))
  | .ne => .ok (.bool (!(left == right)))
  | .lt | .le | .gt | .ge =>
    match left.compare? right with
    | some o => .ok (.bool (op.admits o))
    | none => op.invalid left right
  | .isIn => (op.holds left right).map .bool
  | .notIn => (op.holds left right).map fun found => .bool (!found)
  | .and | .or => op.invalid left right

end BinaryOp

/-- Applies a prefix operator to the value of its operand. -/
def UnaryOp.apply (op : UnaryOp) (operand : Value) : Except EvalError Value :=
  match op, operand with
  | .not, v => .ok (.bool !v.isTruthy)
  | .neg, .number (.int n) => .ok (.number (.ofInt (-n.toInt)))
  | .neg, .number (.float x) => .ok (.float (-x))
  | .plus, .number n => .ok (.number n)
  | op, v => .error (.operand op v.kind)

end Stencil.Expr
