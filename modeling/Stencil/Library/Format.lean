import Stencil.Library.Argument
import Stencil.Decimal.Fixed

/-!
Numbers with a fixed number of decimal places.
-/
namespace Stencil.Library.Format

/-- The number of decimal places asked for. -/
def decimalsArg (args : List Value) (i : Nat) (default : Int64) : Except HelperError Nat := do
  let n ← intArg args i default
  if 0 ≤ n.toInt ∧ n.toInt ≤ decimalsLimit then .ok n.toInt.toNat
  else complain (.decimalsOutOfRange n)

/-- A number with exactly that many places. A zero has no sign; a number that is rounded to zero
keeps its own. -/
def fixed (x : Float) (places : Nat) : String :=
  match Decimal.Binary64.ofFloat x with
  | .finite d =>
    Decimal.withSign (d.negative && d.mantissa != 0) (Decimal.fixedMagnitude places d)
  | _ => (Number.float x).text

/-- A value that stands for a number with fixed places; null stands for none. -/
def toFixed (value places : Value) : Except HelperError Value := do
  match numeric? value with
  | some x => return .string (fixed x (← decimalsArg [places] 0 0))
  | none => complain (.notFormattable value.kind)

def format : Builtin := fun args => do
  checkArity (.between 1 2) args
  toFixed (arg args 0) (arg args 1)

def formatNumber : Builtin := fun args => do
  checkArity (.between 1 2) args
  return .string (fixed (← numberArg args 0) (← decimalsArg args 1 2))

/-- An amount of money behind its symbol. -/
def formatCurrency : Builtin := fun args => do
  checkArity (.between 1 3) args
  let symbol := if (arg args 1).isNull then "$" else textArg args 1
  let x ← numberArg args 0
  return .string (symbol ++ fixed x (← decimalsArg args 2 2))

/-- A share as a percentage. -/
def formatPercent : Builtin := fun args => do
  checkArity (.between 1 2) args
  let x ← numberArg args 0
  return .string (fixed (x * 100.0) (← decimalsArg args 1 2) ++ "%")

/-- The helpers of this module and the names they are called by. -/
def helpers : List (String × Builtin) :=
  [("format", format), ("format_number", formatNumber), ("format_currency", formatCurrency),
   ("format_percent", formatPercent)]

end Stencil.Library.Format
