import Stencil.Expr.Lexer
import Stencil.Expr.Tree

/-!
From tokens to trees. Operators bind, from loosest to tightest: the conditional, which groups to the
right; `??`; or; and; equality; comparison and membership; sum; product, all of which group to the
left; prefix operators; member access, indexing and calls.

Nesting is limited, and so is the number of operators that build a chain. A parser therefore comes
with the parsers of the next level of nesting, and the level is the measure of the recursion; loops
within a level are bounded by the number of tokens that are left.
-/
namespace Stencil.Expr

/-- How deep expressions and prefix operators may nest. -/
def nestingLimit : Nat := 64

/-- How many binary operators, member accesses and indexings an expression may hold. -/
def operatorLimit : Nat := 512

/-- The tokens that are left, how many operators may still follow, and the size of the whole text.
-/
structure State where
  rest : List Lexeme
  budget : Nat
  stop : Nat

/-- The place of the next token. -/
def State.offset (s : State) : Nat :=
  match s.rest with
  | [] => s.stop
  | l :: _ => l.offset

abbrev Parse (α : Type) := StateT State (Except SyntaxError) α

namespace Parse

/-- Fails at the next token. -/
def fail {α : Type} (fault : SyntaxFault) : Parse α := fun s => .error ⟨s.offset, fault⟩

def peek : Parse (Option Token) := fun s => .ok (s.rest.head?.map Lexeme.token, s)

/-- Passes over one token. -/
def skip : Parse Unit := fun s => .ok ((), { s with rest := s.rest.tail })

def tokensLeft : Parse Nat := fun s => .ok (s.rest.length, s)

/-- Passes over a mark if it comes next. -/
def accept (m : Mark) : Parse Bool := do
  match ← peek with
  | some (.mark m') =>
    if m' == m then do
      skip
      return true
    else return false
  | _ => return false

def expect (m : Mark) : Parse Unit := do
  if ← accept m then return ()
  else fail (.expected m (← peek))

def countOperator : Parse Unit := fun s =>
  match s.budget with
  | 0 => .error ⟨s.offset, .tooManyOperators⟩
  | left + 1 => .ok ((), { s with budget := left })

end Parse

open Parse

/-- A binary operator at the front of the tokens, and how many tokens spell it. -/
abbrev OperatorAt := List Token → Option (BinaryOp × Nat)

def orAt : OperatorAt
  | .mark .or :: _ => some (.or, 1)
  | .ident "or" :: _ => some (.or, 1)
  | _ => none

def andAt : OperatorAt
  | .mark .and :: _ => some (.and, 1)
  | .ident "and" :: _ => some (.and, 1)
  | _ => none

def equalityAt : OperatorAt
  | .mark .equal :: _ => some (.eq, 1)
  | .mark .notEqual :: _ => some (.ne, 1)
  | _ => none

def comparisonAt : OperatorAt
  | .mark .less :: _ => some (.lt, 1)
  | .mark .lessEqual :: _ => some (.le, 1)
  | .mark .greater :: _ => some (.gt, 1)
  | .mark .greaterEqual :: _ => some (.ge, 1)
  | .ident "in" :: _ => some (.isIn, 1)
  | .ident "not" :: .ident "in" :: _ => some (.notIn, 2)
  | _ => none

def sumAt : OperatorAt
  | .mark .plus :: _ => some (.add, 1)
  | .mark .minus :: _ => some (.sub, 1)
  | _ => none

def productAt : OperatorAt
  | .mark .star :: _ => some (.mul, 1)
  | .mark .slash :: _ => some (.div, 1)
  | .mark .percent :: _ => some (.rem, 1)
  | _ => none

/-- Passes over a binary operator if it comes next. -/
def acceptOperator (operatorAt : OperatorAt) : Parse (Option BinaryOp) := fun s =>
  match operatorAt ((s.rest.take 2).map Lexeme.token) with
  | some (op, n) => .ok (some op, { s with rest := s.rest.drop n })
  | none => .ok (none, s)

/-- Extends a chain of operands; `n` bounds the operators by the tokens that are left. -/
def chainRest (operand : Parse Tree) (operatorAt : OperatorAt) : Nat → Tree → Parse Tree
  | 0, left => return left
  | n + 1, left => do
    match ← acceptOperator operatorAt with
    | none => return left
    | some op => do
      let right ← operand
      countOperator
      chainRest operand operatorAt n (.binary op left right)

/-- Operands with operators between them, grouped to the left. -/
def chain (operatorAt : OperatorAt) (operand : Parse Tree) : Parse Tree := do
  let first ← operand
  chainRest operand operatorAt (← tokensLeft) first

/-- Extends a chain of alternatives to null. -/
def coalesceRest (operand : Parse Tree) : Nat → Tree → Parse Tree
  | 0, left => return left
  | n + 1, left => do
    if ← accept .coalesce then do
      let right ← operand
      countOperator
      coalesceRest operand n (.coalesce left right)
    else return left

/-- The parsers one level of nesting further in. -/
structure Nested where
  expression : Parse Tree
  operand : Parse Tree

/-- The rest of a list behind one of its items, up to the closing mark. -/
def itemsRest {α : Type} (item : Parse α) (close : Mark) : Nat → List α → Parse (List α)
  | 0, _ => fail (.expected .comma none)
  | n + 1, before => do
    if ← accept close then return before.reverse
    else do
      expect .comma
      if ← accept close then return before.reverse
      else do
        let next ← item
        itemsRest item close n (next :: before)

/-- A list up to its closing mark, behind the opening one. A comma may follow the last item. -/
def items {α : Type} (item : Parse α) (close : Mark) : Parse (List α) := do
  if ← accept close then return []
  else do
    let first ← item
    itemsRest item close (← tokensLeft) [first]

/-- One entry of an object: a name, a string or an integer, a colon and an expression. -/
def entry (nested : Nested) : Parse (String × Tree) := do
  let key ← match ← peek with
    | some (.ident name) => pure name
    | some (.string s) => pure s
    | some (.int n) => pure (Decimal.wholeText n.toInt)
    | _ => fail .expectedKey
  skip
  expect .colon
  return (key, ← nested.expression)

/-- What a name stands for by itself. -/
def named (name : String) : Tree :=
  match name with
  | "true" | "True" => .literal (.bool true)
  | "false" | "False" => .literal (.bool false)
  | "null" | "None" | "undefined" => .literal .null
  | name => .var name

/-- Literals, names, and what stands in brackets of any kind. -/
def primary (nested : Nested) : Parse Tree := do
  match ← peek with
  | none => fail .unexpectedEnd
  | some (.int n) => do
    skip
    return .literal (.int n)
  | some (.float x) => do
    skip
    return .literal (.float x)
  | some (.string s) => do
    skip
    return .literal (.string s)
  | some (.ident name) => do
    skip
    return named name
  | some (.mark .leftParen) => do
    skip
    let e ← nested.expression
    expect .rightParen
    return e
  | some (.mark .leftBracket) => do
    skip
    return .array (← items nested.expression .rightBracket)
  | some (.mark .leftBrace) => do
    skip
    return .object (← items (entry nested) .rightBrace)
  | some t => fail (.unexpected t)

/-- A member name: a name or a natural number. -/
def memberName : Parse String := do
  match ← peek with
  | some (.ident name) => do
    skip
    return name
  | some (.int n) =>
    if 0 ≤ n.toInt then do
      skip
      return Decimal.wholeText n.toInt
    else fail (.expectedMember (some (.int n)))
  | t => fail (.expectedMember t)

/-- Member access or a method call behind its point. -/
def memberRest (nested : Nested) (e : Tree) : Parse Tree := do
  countOperator
  let name ← memberName
  if ← accept .leftParen then return .method e name (← items nested.expression .rightParen)
  else return .member e name

/-- An indexing behind its opening bracket. -/
def indexRest (nested : Nested) (e : Tree) : Parse Tree := do
  countOperator
  let position ← nested.expression
  expect .rightBracket
  return .index e position

/-- A call at its opening parenthesis. -/
def callRest (nested : Nested) (e : Tree) : Parse Tree :=
  match e with
  | .var name => do
    skip
    return .call name (← items nested.expression .rightParen)
  | _ => fail .notCallable

/-- Member accesses, indexings and calls behind a tree. -/
def postfixRest (nested : Nested) : Nat → Tree → Parse Tree
  | 0, e => return e
  | n + 1, e => do
    match ← peek with
    | some (.mark .dot) => do
      skip
      postfixRest nested n (← memberRest nested e)
    | some (.mark .questionDot) => do
      skip
      postfixRest nested n (← memberRest nested e)
    | some (.mark .leftBracket) => do
      skip
      postfixRest nested n (← indexRest nested e)
    | some (.mark .leftParen) => do
      postfixRest nested n (← callRest nested e)
    | _ => return e

def postfixed (nested : Nested) : Parse Tree := do
  let e ← primary nested
  postfixRest nested (← tokensLeft) e

/-- The prefix operator at a token. -/
def prefixAt : Option Token → Option UnaryOp
  | some (.mark .bang) => some .not
  | some (.ident "not") => some .not
  | some (.mark .minus) => some .neg
  | some (.mark .plus) => some .plus
  | _ => none

def prefixed (nested : Nested) : Parse Tree := do
  match prefixAt (← peek) with
  | some op => do
    skip
    return .unary op (← nested.operand)
  | none => postfixed nested

def product (nested : Nested) : Parse Tree := chain productAt (prefixed nested)

def sum (nested : Nested) : Parse Tree := chain sumAt (product nested)

def comparison (nested : Nested) : Parse Tree := chain comparisonAt (sum nested)

def equality (nested : Nested) : Parse Tree := chain equalityAt (comparison nested)

def conjunction (nested : Nested) : Parse Tree := chain andAt (equality nested)

def disjunction (nested : Nested) : Parse Tree := chain orAt (conjunction nested)

def coalescence (nested : Nested) : Parse Tree := do
  let first ← disjunction nested
  coalesceRest (disjunction nested) (← tokensLeft) first

def conditional (nested : Nested) : Parse Tree := do
  let condition ← coalescence nested
  if ← accept .question then do
    let yes ← nested.expression
    expect .colon
    let no ← nested.expression
    return .ternary condition yes no
  else return condition

/-- The parsers with `depth` levels of nesting left. -/
def nestedUpTo (depth : Nat) : Nested :=
  match depth with
  | 0 => ⟨fail .tooDeep, fail .tooDeep⟩
  | depth + 1 => ⟨conditional (nestedUpTo depth), prefixed (nestedUpTo depth)⟩

/-- The tree of all the tokens. -/
def parseTokens (lexemes : List Lexeme) (stop : Nat) : Except SyntaxError Tree := do
  let (e, s) ← (nestedUpTo nestingLimit).expression ⟨lexemes, operatorLimit, stop⟩
  match s.rest with
  | [] => .ok e
  | l :: _ => .error ⟨l.offset, .unexpected l.token⟩

/-- The tree of a text. -/
def parse (source : List Char) : Except SyntaxError Tree := do
  parseTokens (← tokens source) (Text.byteSize source)

end Stencil.Expr
