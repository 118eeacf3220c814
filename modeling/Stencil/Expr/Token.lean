import Stencil.Decimal.Layout

/-!
Tokens of expressions. A lexeme is a token with the text it was read from and the number of bytes in
front of it.
-/
namespace Stencil.Expr

/-- Tokens that are written in one way only, up to a doubled sign of equality. -/
inductive Mark where
  | leftParen
  | rightParen
  | leftBracket
  | rightBracket
  | leftBrace
  | rightBrace
  | comma
  | dot
  | colon
  | question
  | questionDot
  | coalesce
  | plus
  | minus
  | star
  | slash
  | percent
  | bang
  | equal
  | notEqual
  | less
  | lessEqual
  | greater
  | greaterEqual
  | and
  | or
  deriving DecidableEq, Repr

/-- The name of a mark in messages. -/
def Mark.name : Mark → String
  | .leftParen => "LParen"
  | .rightParen => "RParen"
  | .leftBracket => "LBracket"
  | .rightBracket => "RBracket"
  | .leftBrace => "LBrace"
  | .rightBrace => "RBrace"
  | .comma => "Comma"
  | .dot => "Dot"
  | .colon => "Colon"
  | .question => "Question"
  | .questionDot => "QuestionDot"
  | .coalesce => "Coalesce"
  | .plus => "Plus"
  | .minus => "Minus"
  | .star => "Star"
  | .slash => "Slash"
  | .percent => "Percent"
  | .bang => "Bang"
  | .equal => "EqEq"
  | .notEqual => "NotEq"
  | .less => "Lt"
  | .lessEqual => "Le"
  | .greater => "Gt"
  | .greaterEqual => "Ge"
  | .and => "AndAnd"
  | .or => "OrOr"

inductive Token where
  | int (n : Int64)
  | float (x : Float)
  | string (s : String)
  | ident (name : String)
  | mark (m : Mark)

/-- How a token is called in messages. -/
def Token.describe : Token → String
  | .int n => Decimal.wholeText n.toInt
  | .float x => Decimal.plainText x
  | .string s => s!"'{s}'"
  | .ident name => name
  | .mark m => m.name

structure Lexeme where
  token : Token
  text : List Char
  offset : Nat

end Stencil.Expr
