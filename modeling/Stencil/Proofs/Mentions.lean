import Mathlib.Data.List.Basic
import Stencil.Expr.Eval

/-!
What an expression mentions: the names it looks up and the functions and methods it calls. Its value
depends on nothing else. The proof follows the tree, since every operator evaluates some of its
operands in the scope and environment that it was given.
-/
namespace Stencil.Expr

/-- An occurrence of a name in an expression. -/
inductive Mention where
  | variable (name : String)
  | function (name : String)
  | method (name : String)
  deriving DecidableEq, Repr

mutual

/-- The names that occur in a tree, from left to right. Names of members and keys are no mentions:
they are looked up in values. -/
def Tree.mentions : Tree → List Mention
  | .literal _ => []
  | .var name => [.variable name]
  | .array items => mentionsAll items
  | .object entries => mentionsEntries entries
  | .member target _ => target.mentions
  | .index target position => target.mentions ++ position.mentions
  | .call name args => .function name :: mentionsAll args
  | .method receiver name args => receiver.mentions ++ .method name :: mentionsAll args
  | .unary _ operand => operand.mentions
  | .binary _ left right => left.mentions ++ right.mentions
  | .ternary condition yes no => condition.mentions ++ (yes.mentions ++ no.mentions)
  | .coalesce left right => left.mentions ++ right.mentions

def mentionsAll : List Tree → List Mention
  | [] => []
  | t :: ts => t.mentions ++ mentionsAll ts

def mentionsEntries : List (String × Tree) → List Mention
  | [] => []
  | (_, t) :: ts => t.mentions ++ mentionsEntries ts

end

/-- Two scopes and two environments in which everything mentioned means the same. -/
structure Agree (env env' : Environment) (scope scope' : Scope) (l : List Mention) : Prop where
  host : env.host = env'.host
  names : ∀ name, .variable name ∈ l ∨ .function name ∈ l → scope.get? name = scope'.get? name
  helpers : ∀ name, .function name ∈ l ∨ .method name ∈ l →
    env.registry.find? name = env'.registry.find? name

namespace Agree

variable {env env' : Environment} {scope scope' : Scope} {l more : List Mention}

theorem mono (h : Agree env env' scope scope' more) (hl : ∀ m ∈ l, m ∈ more) :
    Agree env env' scope scope' l where
  host := h.host
  names name hname := h.names name (hname.imp (hl _) (hl _))
  helpers name hname := h.helpers name (hname.imp (hl _) (hl _))

theorem left (h : Agree env env' scope scope' (l ++ more)) : Agree env env' scope scope' l :=
  h.mono fun _ hm => List.mem_append_left _ hm

theorem right (h : Agree env env' scope scope' (l ++ more)) : Agree env env' scope scope' more :=
  h.mono fun _ hm => List.mem_append_right _ hm

theorem tail {m : Mention} (h : Agree env env' scope scope' (m :: l)) :
    Agree env env' scope scope' l :=
  h.mono fun _ hm => List.mem_cons_of_mem m hm

/-- A call finds the same helper, or else the same value of the scope. -/
theorem call_eq {name : String} (h : Agree env env' scope scope' (.function name :: l))
    (args : List Value) : call env scope name args = call env' scope' name args := by
  have hhelper := h.helpers name (Or.inl (List.mem_cons_self ..))
  have hname := h.names name (Or.inr (List.mem_cons_self ..))
  unfold call
  rw [hhelper, hname, h.host]

/-- A value has its own methods and members wherever it is, so that only helpers could differ. -/
theorem callMethod_eq {name : String} (h : Agree env env' scope scope' (.method name :: l))
    (receiver : Value) (args : List Value) :
    callMethod env receiver name args = callMethod env' receiver name args := by
  have hhelper := h.helpers name (Or.inr (List.mem_cons_self ..))
  unfold callMethod
  rw [hhelper, h.host]

mutual

theorem eval_eq (t : Tree) (h : Agree env env' scope scope' t.mentions) :
    eval env scope t = eval env' scope' t := by
  cases t with
  | literal v => rw [eval, eval]
  | var name =>
    have hname := h.names name (Or.inl (List.mem_singleton_self _))
    rw [eval, eval, hname]
  | array items =>
    have hitems := evalAll_eq items h
    rw [eval, eval, hitems]
  | object entries =>
    have hentries := evalEntries_eq entries h
    rw [eval, eval, hentries]
  | member target name =>
    have htarget := eval_eq target h
    rw [eval, eval, htarget]
  | index target position =>
    have htarget := eval_eq target h.left
    have hposition := eval_eq position h.right
    rw [eval, eval, htarget, hposition]
  | call name args =>
    have hargs := evalAll_eq args h.tail
    have hcall := h.call_eq
    rw [eval, eval, hargs]
    simp only [hcall]
  | method receiver name args =>
    have hreceiver := eval_eq receiver h.left
    have hargs := evalAll_eq args h.right.tail
    have hmethod := h.right.callMethod_eq
    rw [eval, eval, hreceiver, hargs]
    simp only [hmethod]
  | unary op operand =>
    have hoperand := eval_eq operand h
    rw [eval, eval, hoperand]
  | binary op left right =>
    have hleft := eval_eq left h.left
    have hright := eval_eq right h.right
    -- the logical operators may leave the right operand out, but never evaluate anything else
    cases op <;> simp only [eval, hleft, hright]
  | ternary condition yes no =>
    have hcondition := eval_eq condition h.left
    have hyes := eval_eq yes h.right.left
    have hno := eval_eq no h.right.right
    rw [eval, eval, hcondition, hyes, hno]
  | coalesce left right =>
    have hleft := eval_eq left h.left
    have hright := eval_eq right h.right
    rw [eval, eval, hleft, hright]

theorem evalAll_eq (ts : List Tree) (h : Agree env env' scope scope' (mentionsAll ts)) :
    evalAll env scope ts = evalAll env' scope' ts := by
  cases ts with
  | nil => rw [evalAll, evalAll]
  | cons t ts =>
    have hfirst := eval_eq t h.left
    have hrest := evalAll_eq ts h.right
    rw [evalAll, evalAll, hfirst, hrest]

theorem evalEntries_eq (ts : List (String × Tree))
    (h : Agree env env' scope scope' (mentionsEntries ts)) :
    evalEntries env scope ts = evalEntries env' scope' ts := by
  match ts with
  | [] => rw [evalEntries, evalEntries]
  | (name, t) :: ts =>
    have hfirst := eval_eq t h.left
    have hrest := evalEntries_eq ts h.right
    rw [evalEntries, evalEntries, hfirst, hrest]

end

end Agree

/-- Evaluation reads only what the tree mentions. Two scopes, however they are layered, that give
the variables and called functions of a tree the same values, and two registries with the same
helpers under the functions and methods that it calls, lead to the same value or error. -/
theorem eval_eq_of_mentions (t : Tree) (host : Host) {registry registry' : Registry}
    {scope scope' : Scope}
    (hnames : ∀ name, .variable name ∈ t.mentions ∨ .function name ∈ t.mentions →
      scope.get? name = scope'.get? name)
    (hhelpers : ∀ name, .function name ∈ t.mentions ∨ .method name ∈ t.mentions →
      registry.find? name = registry'.find? name) :
    eval ⟨registry, host⟩ scope t = eval ⟨registry', host⟩ scope' t := by
  have hagree : Agree ⟨registry, host⟩ ⟨registry', host⟩ scope scope' t.mentions :=
    ⟨rfl, hnames, hhelpers⟩
  exact Agree.eval_eq t hagree

/-- A call and a method call behind a condition. -/
def billTree : Tree :=
  .ternary (.var "open")
    (.binary .add (.call "fee" [.var "days"]) (.method (.var "items") "total" [])) (.literal .null)

def billHost : Host := fun _ _ => .ok .null

def fee : Helper := fun args => .ok (args.headD .null)

def total : Helper := fun args => .ok (.ofNat args.length)

def billRegistry : Registry := ⟨[("fee", fee), ("total", total)]⟩

def fullRegistry : Registry := ⟨[("now", fun _ => .ok .null), ("total", total), ("fee", fee)]⟩

/-- Two layers, with a binding that is hidden and one that the tree does not mention. -/
def layeredScope : Scope :=
  (Scope.root [("open", .null), ("items", .seq []), ("days", .int 3), ("note", .string "x")]).derive
    "open" (.bool true)

def flatScope : Scope :=
  Scope.root [("days", .int 3), ("open", .bool true), ("items", .seq [])]

theorem eval_eq_of_mentions_billTree :
    billTree.mentions = [.variable "open", .function "fee", .variable "days", .variable "items",
        .method "total"] ∧
      eval ⟨billRegistry, billHost⟩ layeredScope billTree =
        eval ⟨fullRegistry, billHost⟩ flatScope billTree ∧
      eval ⟨billRegistry, billHost⟩ layeredScope billTree = .ok (.int 4) := by
  have hmentions : billTree.mentions = [.variable "open", .function "fee", .variable "days",
      .variable "items", .method "total"] := rfl
  refine ⟨hmentions, eval_eq_of_mentions billTree billHost ?_ ?_, rfl⟩
  · rw [hmentions]
    intro name hname
    simp only [List.mem_cons, Mention.variable.injEq, Mention.function.injEq, reduceCtorEq,
      List.not_mem_nil, or_false, false_or] at hname
    rcases hname with (rfl | rfl | rfl) | rfl <;> rfl
  · rw [hmentions]
    intro name hname
    simp only [List.mem_cons, Mention.method.injEq, Mention.function.injEq, reduceCtorEq,
      List.not_mem_nil, or_false, false_or] at hname
    rcases hname with rfl | rfl <;> rfl

end Stencil.Expr
