import Stencil.Expr.Parser

/-!
The grammar of expressions, apart from how they are read. A phrase is a run of tokens with what it
means, and with the number of operators in it that a limit counts: binary operators, `??`, points
and indexing brackets. From loosest to tightest the productions are the conditional, which groups to
the right; `??`, or, and, equality, comparison, sum and product, which group to the left; prefix
operators; members, indexing and calls; and what stands by itself or in brackets. Phrases inside a
production belong to the level of nesting below, so that the level bounds how deep expressions and
prefix operators nest.
-/
namespace Stencil.Expr.Grammar

/-- A kind of phrase: the counted operators, the tokens, and what they mean. -/
abbrev Phrases (α : Type) := Nat → List Token → α → Prop

/-- The phrases one level of nesting further in. -/
structure Inner where
  expression : Phrases Tree
  operand : Phrases Tree

/-! ### Tokens -/

/-- How tightly binary operators bind, loosest first. -/
inductive Level where
  | or
  | and
  | equality
  | comparison
  | sum
  | product
  deriving DecidableEq, Repr

def level : BinaryOp → Level
  | .or => .or
  | .and => .and
  | .eq | .ne => .equality
  | .lt | .le | .gt | .ge | .isIn | .notIn => .comparison
  | .add | .sub => .sum
  | .mul | .div | .rem => .product

/-- The tokens that a binary operator can be written with. -/
def operatorTokens : BinaryOp → List (List Token)
  | .add => [[.mark .plus]]
  | .sub => [[.mark .minus]]
  | .mul => [[.mark .star]]
  | .div => [[.mark .slash]]
  | .rem => [[.mark .percent]]
  | .eq => [[.mark .equal]]
  | .ne => [[.mark .notEqual]]
  | .lt => [[.mark .less]]
  | .le => [[.mark .lessEqual]]
  | .gt => [[.mark .greater]]
  | .ge => [[.mark .greaterEqual]]
  | .isIn => [[.ident "in"]]
  | .notIn => [[.ident "not", .ident "in"]]
  | .and => [[.mark .and], [.ident "and"]]
  | .or => [[.mark .or], [.ident "or"]]

/-- The tokens that a prefix operator can be written with. -/
def prefixTokens : UnaryOp → List Token
  | .not => [.mark .bang, .ident "not"]
  | .neg => [.mark .minus]
  | .plus => [.mark .plus]

/-- The names that are values. -/
def literalWords : List (String × Value) :=
  [("true", .bool true), ("True", .bool true), ("false", .bool false), ("False", .bool false),
   ("null", .null), ("None", .null), ("undefined", .null)]

/-- The names that no variable has. -/
def reserved : List String := "not" :: literalWords.map Prod.fst

/-- What can stand between a value and the name of its member. -/
def points : List Token := [.mark .dot, .mark .questionDot]

inductive MemberName : Token → String → Prop
  | name (name : String) : MemberName (.ident name) name
  | position (n : Int64) (h : 0 ≤ n.toInt) : MemberName (.int n) (Decimal.wholeText n.toInt)

/-- The key of an object's entry. -/
inductive Key : Token → String → Prop
  | name (name : String) : Key (.ident name) name
  | text (s : String) : Key (.string s) s
  | position (n : Int64) : Key (.int n) (Decimal.wholeText n.toInt)

/-! ### Productions -/

section Productions

variable (inner : Inner)

/-- Phrases in a row, separated by commas; a comma may follow the last one. -/
inductive Listed {α : Type} (item : Phrases α) : Phrases (List α)
  | nil : Listed item 0 [] []
  | last {k : Nat} {ts : List Token} {a : α} (ha : item k ts a) : Listed item k ts [a]
  | cons {k j : Nat} {ts us : List Token} {a : α} {as : List α} (ha : item k ts a)
      (has : Listed item j us as) : Listed item (k + j) (ts ++ .mark .comma :: us) (a :: as)

/-- A key, a colon and an expression. -/
inductive Entry : Phrases (String × Tree)
  | entry {k : Nat} {token : Token} {key : String} {ts : List Token} {t : Tree}
      (hkey : Key token key) (ht : inner.expression k ts t) :
      Entry k (token :: .mark .colon :: ts) (key, t)

/-- What stands by itself or in brackets. Parentheses mean what is in them. -/
inductive Primary : Phrases Tree
  | int (n : Int64) : Primary 0 [.int n] (.literal (.int n))
  | float (x : Float) : Primary 0 [.float x] (.literal (.float x))
  | string (s : String) : Primary 0 [.string s] (.literal (.string s))
  | word {name : String} {v : Value} (h : (name, v) ∈ literalWords) :
      Primary 0 [.ident name] (.literal v)
  | var {name : String} (h : name ∉ reserved) : Primary 0 [.ident name] (.var name)
  | parens {k : Nat} {ts : List Token} {t : Tree} (ht : inner.expression k ts t) :
      Primary k (.mark .leftParen :: (ts ++ [.mark .rightParen])) t
  | array {k : Nat} {ts : List Token} {items : List Tree}
      (hitems : Listed inner.expression k ts items) :
      Primary k (.mark .leftBracket :: (ts ++ [.mark .rightBracket])) (.array items)
  | object {k : Nat} {ts : List Token} {entries : List (String × Tree)}
      (hentries : Listed (Entry inner) k ts entries) :
      Primary k (.mark .leftBrace :: (ts ++ [.mark .rightBrace])) (.object entries)

/-- Members, method calls, indexing and calls. Only a name can be called. -/
inductive Postfixed : Phrases Tree
  | primary {k : Nat} {ts : List Token} {t : Tree} (ht : Primary inner k ts t) : Postfixed k ts t
  | member {k : Nat} {ts : List Token} {t : Tree} {point token : Token} {name : String}
      (ht : Postfixed k ts t) (hpoint : point ∈ points) (hname : MemberName token name) :
      Postfixed (k + 1) (ts ++ [point, token]) (.member t name)
  | method {k j : Nat} {ts us : List Token} {t : Tree} {point token : Token} {name : String}
      {args : List Tree} (ht : Postfixed k ts t) (hpoint : point ∈ points)
      (hname : MemberName token name) (hargs : Listed inner.expression j us args) :
      Postfixed (k + 1 + j)
        (ts ++ point :: token :: .mark .leftParen :: (us ++ [.mark .rightParen]))
        (.method t name args)
  | index {k j : Nat} {ts us : List Token} {t position : Tree} (ht : Postfixed k ts t)
      (hposition : inner.expression j us position) :
      Postfixed (k + 1 + j) (ts ++ .mark .leftBracket :: (us ++ [.mark .rightBracket]))
        (.index t position)
  | call {k j : Nat} {ts us : List Token} {name : String} {args : List Tree}
      (hname : Postfixed k ts (.var name)) (hargs : Listed inner.expression j us args) :
      Postfixed (k + j) (ts ++ .mark .leftParen :: (us ++ [.mark .rightParen])) (.call name args)

inductive Prefixed : Phrases Tree
  | postfixed {k : Nat} {ts : List Token} {t : Tree} (ht : Postfixed inner k ts t) :
      Prefixed k ts t
  | operator {k : Nat} {token : Token} {ts : List Token} {op : UnaryOp} {t : Tree}
      (hop : token ∈ prefixTokens op) (ht : inner.operand k ts t) :
      Prefixed k (token :: ts) (.unary op t)

/-- Operands with operators between them, grouped to the left. -/
inductive Chain (joins : List Token → (Tree → Tree → Tree) → Prop) (operand : Phrases Tree) :
    Phrases Tree
  | operand {k : Nat} {ts : List Token} {t : Tree} (ht : operand k ts t) :
      Chain joins operand k ts t
  | join {k j : Nat} {ts os us : List Token} {l r : Tree} {f : Tree → Tree → Tree}
      (hl : Chain joins operand k ts l) (hf : joins os f) (hr : operand j us r) :
      Chain joins operand (k + j + 1) (ts ++ os ++ us) (f l r)

/-- The binary operators of a level. -/
inductive Joins (rank : Level) : List Token → (Tree → Tree → Tree) → Prop
  | binary {os : List Token} {op : BinaryOp} (hlevel : level op = rank)
      (hos : os ∈ operatorTokens op) : Joins rank os (.binary op)

inductive JoinsNull : List Token → (Tree → Tree → Tree) → Prop
  | coalesce : JoinsNull [.mark .coalesce] .coalesce

def Product : Phrases Tree := Chain (Joins .product) (Prefixed inner)

def Sum : Phrases Tree := Chain (Joins .sum) (Product inner)

def Comparison : Phrases Tree := Chain (Joins .comparison) (Sum inner)

def Equality : Phrases Tree := Chain (Joins .equality) (Comparison inner)

def Conjunction : Phrases Tree := Chain (Joins .and) (Equality inner)

def Disjunction : Phrases Tree := Chain (Joins .or) (Conjunction inner)

def Coalescence : Phrases Tree := Chain JoinsNull (Disjunction inner)

inductive Conditional : Phrases Tree
  | plain {k : Nat} {ts : List Token} {t : Tree} (ht : Coalescence inner k ts t) :
      Conditional k ts t
  | choice {k j i : Nat} {ts us vs : List Token} {condition yes no : Tree}
      (hcondition : Coalescence inner k ts condition) (hyes : inner.expression j us yes)
      (hno : inner.expression i vs no) :
      Conditional (k + j + i) (ts ++ .mark .question :: (us ++ .mark .colon :: vs))
        (.ternary condition yes no)

end Productions

/-- The phrases with `depth` levels of nesting left. -/
def innerAt : Nat → Inner
  | 0 => ⟨fun _ _ _ => False, fun _ _ _ => False⟩
  | depth + 1 => ⟨Conditional (innerAt depth), Prefixed (innerAt depth)⟩

/-- Expressions in which at most `depth` expressions and prefix operators, the whole one included,
stand inside one another. -/
def Derives (depth : Nat) : Phrases Tree := (innerAt depth).expression

end Stencil.Expr.Grammar
