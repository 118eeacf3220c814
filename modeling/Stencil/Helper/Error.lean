import Stencil.Value.Reader
import Stencil.Decimal.Layout

/-!
The errors of helpers: a call with the wrong number of arguments, or an argument that a helper
cannot use. The reason is kept as such and worded in one place.
-/
namespace Stencil

/-- The numbers of arguments a helper takes. -/
inductive Arity where
  | exactly (n : Nat)
  | atLeast (n : Nat)
  | between (low high : Nat)
  deriving DecidableEq, Repr

namespace Arity

def accepts : Arity → Nat → Bool
  | .exactly n, k => k == n
  | .atLeast n, k => n ≤ k
  | .between low high, k => low ≤ k && k ≤ high

def text : Arity → String
  | .exactly n => s!"{n}"
  | .atLeast n => s!"at least {n}"
  | .between low high => s!"{low} to {high}"

end Arity

/-- Why an argument cannot be used. Positions count from one. -/
inductive Complaint where
  | notNumeric (position : Nat) (got : Kind)
  | notArray (position : Nat) (got : Kind)
  | notObject (position : Nat) (got : Kind)
  | notComparable (item other : Kind)
  | notOrdered (item other : Kind)
  | emptySequence
  | startNotNumeric (got : Kind)
  | notSummable (got : Kind)
  | outsideDomain (x : Float)
  | logarithmBaseOne
  | decimalsOutOfRange (got : Int64)
  | notFormattable (got : Kind)
  | emptyRange (low high : Int64)
  | emptySeparator
  | fillNotOneCharacter
  | resultTooLarge
  | noLength (got : Kind)
  | chunkSizeNotPositive
  | zeroStep
  | rangeTooLarge
  | emptyPath
  | notConvertible (got : Kind) (target : String)
  | malformedJson (e : Value.ReadError)
  | invalidDateFormat (pattern : String)
  | dateOutOfRange
  | lengthOutOfRange (got : Int64)
  | custom (text : String)

/-- The greatest number of decimal places that can be asked for. -/
def decimalsLimit : Nat := 100

open Decimal in
def Complaint.message : Complaint → String
  | .notNumeric position got => s!"argument {position} must be numeric, got {got.name}"
  | .notArray position got => s!"argument {position} must be an array, got {got.name}"
  | .notObject position got => s!"argument {position} must be an object, got {got.name}"
  | .notComparable item other => s!"cannot compare {item.name} with {other.name}"
  | .notOrdered item other => s!"cannot order {item.name} against {other.name}"
  | .emptySequence => "empty sequence"
  | .startNotNumeric got => s!"start must be numeric, got {got.name}"
  | .notSummable got => s!"cannot sum {got.name}"
  | .outsideDomain x => s!"math domain error for {plainText x}"
  | .logarithmBaseOne => "logarithm base 1"
  | .decimalsOutOfRange got =>
    s!"decimals must be between 0 and {decimalsLimit}, got {wholeText got.toInt}"
  | .notFormattable got => s!"cannot format {got.name} as a number"
  | .emptyRange low high => s!"empty range {wholeText low.toInt}..={wholeText high.toInt}"
  | .emptySeparator => "empty separator"
  | .fillNotOneCharacter => "fill must be exactly one character"
  | .resultTooLarge => "result too large"
  | .noLength got => s!"{got.name} has no length"
  | .chunkSizeNotPositive => "chunk size must be positive"
  | .zeroStep => "step must not be zero"
  | .rangeTooLarge => "range too large"
  | .emptyPath => "empty path"
  | .notConvertible got target => s!"cannot convert {got.name} to {target}"
  | .malformedJson e => s!"invalid JSON: {e.message}"
  | .invalidDateFormat pattern => s!"invalid date format '{pattern}'"
  | .dateOutOfRange => "date out of range"
  | .lengthOutOfRange got => s!"length {wholeText got.toInt} out of range"
  | .custom text => text

inductive HelperError where
  | arity (expected : String) (got : Nat)
  | invalidArgument (reason : Complaint)

def HelperError.message : HelperError → String
  | .arity expected got => s!"expected {expected} argument(s), got {got}"
  | .invalidArgument reason => s!"invalid argument: {reason.message}"

end Stencil
