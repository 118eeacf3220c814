import Stencil.Expr.Token
import Stencil.Expr.Operator
import Stencil.Helper.Error

/-!
The errors of expressions: a text that is no expression, with the place where that shows, and
operations that have no result.
-/
namespace Stencil.Expr

/-- What is wrong with the text of an expression. -/
inductive SyntaxFault where
  | unexpectedChar (c : Char)
  | unterminatedString
  | invalidNumber (text : List Char)
  | tooDeep
  | tooManyOperators
  | unexpectedEnd
  | unexpected (found : Token)
  | expected (wanted : Mark) (found : Option Token)
  | expectedMember (found : Option Token)
  | expectedKey
  | notCallable

/-- What was found, for messages. -/
def describeFound : Option Token → String
  | some t => t.describe
  | none => "end of expression"

def SyntaxFault.message : SyntaxFault → String
  | .unexpectedChar c => s!"unexpected character '{String.singleton c}'"
  | .unterminatedString => "unterminated string literal"
  | .invalidNumber text => s!"invalid number '{String.ofList text}'"
  | .tooDeep => "expression nested too deeply"
  | .tooManyOperators => "too many operators"
  | .unexpectedEnd => "unexpected end of expression"
  | .unexpected found => s!"unexpected {found.describe}"
  | .expected wanted found => s!"expected {wanted.name}, found {describeFound found}"
  | .expectedMember found => s!"expected member name, found {describeFound found}"
  | .expectedKey => "expected object key"
  | .notCallable => "only named functions can be called"

structure SyntaxError where
  offset : Nat
  fault : SyntaxFault

inductive EvalError where
  | malformed (e : SyntaxError)
  | operands (op : BinaryOp) (left right : Kind)
  | operand (op : UnaryOp) (operand : Kind)
  | divisionByZero
  | unknownMethod (method : String) (receiver : Kind)
  | helper (name : String) (cause : HelperError)

def EvalError.message : EvalError → String
  | .malformed e => s!"syntax error at offset {e.offset}: {e.fault.message}"
  | .operands op left right =>
    s!"operator '{op.symbol}' is not valid for {left.name} and {right.name}"
  | .operand op got => s!"operator '{op.symbol}' is not valid for {got.name}"
  | .divisionByZero => "division by zero"
  | .unknownMethod method receiver => s!"unknown method '{method}' on {receiver.name}"
  | .helper name cause => s!"helper '{name}' failed: {cause.message}"

end Stencil.Expr
