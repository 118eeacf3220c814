import Stencil.Helper.Basic
import Stencil.Value.Text
import Stencil.Text.Blank
import Stencil.Decimal.Reader

/-!
How helpers look at their arguments. An argument that is not given is null; null counts as an empty
text and as the default of an integer.
-/
namespace Stencil.Library

/-- The argument at a position counted from zero. -/
def arg (args : List Value) (i : Nat) : Value := args.getD i .null

/-- Refuses a call with the wrong number of arguments. -/
def checkArity (expected : Arity) (args : List Value) : Except HelperError Unit :=
  if expected.accepts args.length then .ok () else .error (.arity expected.text args.length)

def complain {α : Type} (reason : Complaint) : Except HelperError α :=
  .error (.invalidArgument reason)

def textArg (args : List Value) (i : Nat) : String := (arg args i).text

/-- The number that a value stands for: numbers, texts that name one, and booleans. -/
def numeric? : Value → Option Float
  | .number n => some n.toFloat
  | .string s => Decimal.float? (Text.trim s.toList)
  | .bool b => some (if b then 1.0 else 0.0)
  | _ => none

def numberArg (args : List Value) (i : Nat) : Except HelperError Float :=
  match numeric? (arg args i) with
  | some x => .ok x
  | none => complain (.notNumeric (i + 1) (arg args i).kind)

/-- An integer argument; other numbers are cut off to an integer. -/
def intArg (args : List Value) (i : Nat) (default : Int64) : Except HelperError Int64 :=
  match arg args i with
  | .null => .ok default
  | .number (.int n) => .ok n
  | _ => (numberArg args i).map Decimal.saturate

def seqArg (args : List Value) (i : Nat) : Except HelperError (List Value) :=
  match arg args i with
  | .seq items => .ok items
  | v => complain (.notArray (i + 1) v.kind)

def mapArg (args : List Value) (i : Nat) : Except HelperError (List (String × Value)) :=
  match arg args i with
  | .map entries => .ok entries
  | v => complain (.notObject (i + 1) v.kind)

/-- A helper that tests its one argument. -/
def predicate (test : Value → Bool) : Builtin := fun args => do
  checkArity (.exactly 1) args
  return .bool (test (arg args 0))

/-- The greatest size of sequences and texts that are built rather than passed on. -/
def sizeLimit : Nat := 100000

end Stencil.Library
