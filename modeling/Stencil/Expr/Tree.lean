import Stencil.Expr.Operator
import Stencil.Value.Basic

/-!
Expressions as trees.
-/
namespace Stencil.Expr

inductive Tree where
  | literal (v : Value)
  | var (name : String)
  | array (items : List Tree)
  | object (entries : List (String × Tree))
  | member (target : Tree) (name : String)
  | index (target position : Tree)
  | call (name : String) (args : List Tree)
  | method (receiver : Tree) (name : String) (args : List Tree)
  | unary (op : UnaryOp) (operand : Tree)
  | binary (op : BinaryOp) (left right : Tree)
  | ternary (condition yes no : Tree)
  | coalesce (left right : Tree)

instance : Inhabited Tree := ⟨.literal .null⟩

end Stencil.Expr
