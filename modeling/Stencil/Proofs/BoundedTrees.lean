import Stencil.Expr.Eval
import Stencil.Proofs.AcceptedGrammar

/-!
How large the trees of expressions are. The limits of the grammar count operators and levels of
nesting, and neither counts conditionals, calls and literals. But such a node stands on a way
through the tree only where a level of nesting begins, so that a tree is higher than its operators
by twice its levels at most. Evaluation goes down one node each time it calls itself, and therefore
never calls itself deeper than the tree is high.
-/
namespace Stencil.Expr

open Grammar

/-! ### Operators and height -/

mutual

/-- The operators in a tree that build chains: binary operators, `??`, members, method calls and
indexing. -/
def Tree.operators : Tree → Nat
  | .literal _ => 0
  | .var _ => 0
  | .array items => operatorsAll items
  | .object entries => operatorsEntries entries
  | .member target _ => target.operators + 1
  | .index target position => target.operators + position.operators + 1
  | .call _ args => operatorsAll args
  | .method receiver _ args => receiver.operators + operatorsAll args + 1
  | .unary _ operand => operand.operators
  | .binary _ left right => left.operators + right.operators + 1
  | .ternary condition yes no => condition.operators + yes.operators + no.operators
  | .coalesce left right => left.operators + right.operators + 1

def operatorsAll : List Tree → Nat
  | [] => 0
  | t :: ts => t.operators + operatorsAll ts

def operatorsEntries : List (String × Tree) → Nat
  | [] => 0
  | (_, t) :: ts => t.operators + operatorsEntries ts

end

mutual

/-- The nodes on the longest way through a tree. A leaf is one node high. -/
def Tree.height : Tree → Nat
  | .literal _ => 1
  | .var _ => 1
  | .array items => heightAll items + 1
  | .object entries => heightEntries entries + 1
  | .member target _ => target.height + 1
  | .index target position => max target.height position.height + 1
  | .call _ args => heightAll args + 1
  | .method receiver _ args => max receiver.height (heightAll args) + 1
  | .unary _ operand => operand.height + 1
  | .binary _ left right => max left.height right.height + 1
  | .ternary condition yes no => max condition.height (max yes.height no.height) + 1
  | .coalesce left right => max left.height right.height + 1

def heightAll : List Tree → Nat
  | [] => 0
  | t :: ts => max t.height (heightAll ts)

def heightEntries : List (String × Tree) → Nat
  | [] => 0
  | (_, t) :: ts => max t.height (heightEntries ts)

end

theorem operatorsEntries_eq (entries : List (String × Tree)) :
    operatorsEntries entries = operatorsAll (entries.map Prod.snd) := by
  induction entries with
  | nil => rfl
  | cons entry entries ih => rw [operatorsEntries, List.map_cons, operatorsAll, ih]

theorem heightEntries_eq (entries : List (String × Tree)) :
    heightEntries entries = heightAll (entries.map Prod.snd) := by
  induction entries with
  | nil => rfl
  | cons entry entries ih => rw [heightEntries, List.map_cons, heightAll, ih]

theorem Tree.height_pos (t : Tree) : 0 < t.height := by
  cases t <;> simp [height]

theorem height_le_heightAll {t : Tree} {ts : List Tree} (h : t ∈ ts) : t.height ≤ heightAll ts := by
  induction ts with
  | nil => simp at h
  | cons u ts ih =>
    rw [heightAll]
    rcases List.mem_cons.mp h with rfl | hmem
    · omega
    · have hrest := ih hmem
      omega

theorem height_le_heightEntries {entry : String × Tree} {entries : List (String × Tree)}
    (h : entry ∈ entries) : entry.2.height ≤ heightEntries entries := by
  rw [heightEntries_eq]
  exact height_le_heightAll (List.mem_map_of_mem h)

/-! ### Phrases -/

namespace Grammar

/-- The trees of the phrases hold the operators that are counted, and are higher than these by the
bound at most. -/
def Sized (bound : Nat) (L : Phrases Tree) : Prop :=
  ∀ k ts t, L k ts t → t.operators = k ∧ t.height ≤ bound + k

section Productions

variable {bound : Nat} {inner : Inner} {L : Phrases Tree}

theorem Sized.mono {larger : Nat} (h : Sized bound L) (hle : bound ≤ larger) : Sized larger L := by
  intro k ts t ht
  obtain ⟨hoperators, hheight⟩ := h k ts t ht
  exact ⟨hoperators, by omega⟩

theorem Sized.listed (h : Sized bound L) {k : Nat} {ts : List Token} {as : List Tree}
    (has : Listed L k ts as) : operatorsAll as = k ∧ heightAll as ≤ bound + k := by
  induction has with
  | nil => exact ⟨rfl, Nat.zero_le _⟩
  | last ha =>
    obtain ⟨hoperators, hheight⟩ := h _ _ _ ha
    simp only [operatorsAll, heightAll]
    omega
  | cons ha has ih =>
    obtain ⟨hoperators, hheight⟩ := h _ _ _ ha
    simp only [operatorsAll, heightAll]
    omega

/-- The entries of an object are as large as the expressions behind their keys. -/
theorem Listed.expressions {k : Nat} {ts : List Token} {entries : List (String × Tree)}
    (h : Listed (Entry inner) k ts entries) :
    ∃ us, Listed inner.expression k us (entries.map Prod.snd) := by
  induction h with
  | nil => exact ⟨[], .nil⟩
  | last ha =>
    obtain ⟨-, ht⟩ := ha
    exact ⟨_, .last ht⟩
  | cons ha has ih =>
    obtain ⟨-, ht⟩ := ha
    obtain ⟨us, hus⟩ := ih
    exact ⟨_, .cons ht hus⟩

theorem Sized.primary (h : Sized bound inner.expression) : Sized (bound + 1) (Primary inner) := by
  intro k ts t ht
  cases ht with
  | int | float | string | word | var => exact ⟨rfl, Nat.le_add_left 1 bound⟩
  | parens ht =>
    obtain ⟨hoperators, hheight⟩ := h _ _ _ ht
    omega
  | array hitems =>
    obtain ⟨hoperators, hheight⟩ := h.listed hitems
    simp only [Tree.operators, Tree.height]
    omega
  | object hentries =>
    obtain ⟨us, hus⟩ := hentries.expressions
    obtain ⟨hoperators, hheight⟩ := h.listed hus
    rw [Tree.operators, Tree.height, operatorsEntries_eq, heightEntries_eq]
    omega

/-- A call is no counted operator, but it is always the first node behind a name. -/
theorem Sized.postfixed (h : Sized bound inner.expression) :
    Sized (bound + 1) (Postfixed inner) := by
  intro k ts t ht
  induction ht with
  | primary ht => exact h.primary _ _ _ ht
  | member ht hpoint hname ih =>
    simp only [Tree.operators, Tree.height]
    omega
  | method ht hpoint hname hargs ih =>
    obtain ⟨hoperators, hheight⟩ := h.listed hargs
    simp only [Tree.operators, Tree.height]
    omega
  | index ht hposition ih =>
    obtain ⟨hoperators, hheight⟩ := h _ _ _ hposition
    simp only [Tree.operators, Tree.height]
    omega
  | call hname hargs ih =>
    obtain ⟨hoperators, hheight⟩ := h.listed hargs
    simp only [Tree.operators, Tree.height] at ih ⊢
    omega

theorem Sized.prefixed (hexpression : Sized bound inner.expression)
    (hoperand : Sized bound inner.operand) : Sized (bound + 1) (Prefixed inner) := by
  intro k ts t ht
  cases ht with
  | postfixed ht => exact hexpression.postfixed _ _ _ ht
  | operator hop ht =>
    obtain ⟨hoperators, hheight⟩ := hoperand _ _ _ ht
    simp only [Tree.operators, Tree.height]
    omega

/-- What joins two operands is a counted operator above both of them. -/
theorem Sized.chain {joins : List Token → (Tree → Tree → Tree) → Prop} (h : Sized bound L)
    (hjoins : ∀ os f l r, joins os f → (f l r).operators = l.operators + r.operators + 1 ∧
      (f l r).height = max l.height r.height + 1) : Sized bound (Chain joins L) := by
  intro k ts t ht
  induction ht with
  | operand ht => exact h _ _ _ ht
  | @join k j ts os us l r f hl hf hr ih =>
    obtain ⟨hoperators, hheight⟩ := hjoins os f l r hf
    obtain ⟨hright, hrightHeight⟩ := h _ _ _ hr
    omega

theorem Sized.binary {rank : Level} (h : Sized bound L) : Sized bound (Chain (Joins rank) L) := by
  refine h.chain ?_
  rintro os f l r ⟨-, -⟩
  exact ⟨rfl, rfl⟩

theorem Sized.conditional (hexpression : Sized bound inner.expression)
    (hoperand : Sized bound inner.operand) : Sized (bound + 2) (Conditional inner) := by
  have hcoalescence : Sized (bound + 1) (Coalescence inner) := by
    refine (hexpression.prefixed hoperand).binary.binary.binary.binary.binary.binary.chain ?_
    rintro os f l r ⟨⟩
    exact ⟨rfl, rfl⟩
  intro k ts t ht
  cases ht with
  | plain ht => exact hcoalescence.mono (Nat.le_succ _) _ _ _ ht
  | choice hcondition hyes hno =>
    obtain ⟨hconditionOperators, hconditionHeight⟩ := hcoalescence _ _ _ hcondition
    obtain ⟨hyesOperators, hyesHeight⟩ := hexpression _ _ _ hyes
    obtain ⟨hnoOperators, hnoHeight⟩ := hexpression _ _ _ hno
    simp only [Tree.operators, Tree.height]
    omega

end Productions

theorem sized_innerAt (depth : Nat) :
    Sized (2 * depth) (innerAt depth).expression ∧ Sized (2 * depth) (innerAt depth).operand := by
  induction depth with
  | zero => exact ⟨fun _ _ _ h => h.elim, fun _ _ _ h => h.elim⟩
  | succ depth ih =>
    obtain ⟨hexpression, hoperand⟩ := ih
    exact ⟨hexpression.conditional hoperand, (hexpression.prefixed hoperand).mono (by omega)⟩

/-- A derived tree holds the operators that the derivation counts, and every level of nesting adds
two to its height at most. -/
theorem Derives.sized {depth k : Nat} {ts : List Token} {t : Tree} (h : Derives depth k ts t) :
    t.operators = k ∧ t.height ≤ 2 * depth + k :=
  (sized_innerAt depth).1 k ts t h

end Grammar

/-! ### The depth of an evaluation -/

section Evaluation

variable {env : Environment} {scope : Scope} {value value' : Tree → EvalResult Value} {t : Tree}

/-- The value of a tree from given values of the trees right below it. -/
def evalNode (env : Environment) (scope : Scope) (value : Tree → EvalResult Value) :
    Tree → EvalResult Value
  | .literal v => .ok v
  | .var name => .ok ((scope.get? name).getD .null)
  | .array items => do return .seq (← items.mapM value)
  | .object entries => do
    return .map (Record.ofList (← entries.mapM fun e => return (e.1, ← value e.2)))
  | .member target name => do return memberOf (← value target) name
  | .index target position => do
    let t ← value target
    return elementOf t (← value position)
  | .call name args => do call env scope name (← args.mapM value)
  | .method receiver name args => do
    let r ← value receiver
    callMethod env r name (← args.mapM value)
  | .unary op operand => do operated (op.apply (← value operand))
  | .binary .and left right => do
    let l ← value left
    if l.isTruthy then value right else return l
  | .binary .or left right => do
    let l ← value left
    if l.isTruthy then return l else value right
  | .binary op left right => do
    let l ← value left
    let r ← value right
    operated (op.apply l r)
  | .ternary condition yes no => do
    let c ← value condition
    if c.isTruthy then value yes else value no
  | .coalesce left right => do
    let l ← value left
    if l.isNull then value right else return l

/-- The value of a tree if evaluation may call itself through `depth` nodes and has `other` in the
place of every call further down. -/
def evalWithin (env : Environment) (scope : Scope) (other : Tree → EvalResult Value) :
    Nat → Tree → EvalResult Value
  | 0 => other
  | depth + 1 => evalNode env scope (evalWithin env scope other depth)

theorem evalAll_eq_mapM (env : Environment) (scope : Scope) (items : List Tree) :
    evalAll env scope items = items.mapM (eval env scope) := by
  induction items with
  | nil => rw [evalAll]; rfl
  | cons t items ih => rw [evalAll, List.mapM_cons, ih]

theorem evalEntries_eq_mapM (env : Environment) (scope : Scope) (entries : List (String × Tree)) :
    evalEntries env scope entries =
      entries.mapM fun e => return (e.1, ← eval env scope e.2) := by
  induction entries with
  | nil => rw [evalEntries]; rfl
  | cons e entries ih =>
    rw [evalEntries, List.mapM_cons, ih]
    cases eval env scope e.2 <;> rfl

/-- Evaluation calls itself for the trees right below only. -/
theorem eval_eq_evalNode (env : Environment) (scope : Scope) (t : Tree) :
    eval env scope t = evalNode env scope (eval env scope) t := by
  cases t with
  | array items | call name items | method receiver name items =>
    rw [eval, evalNode, evalAll_eq_mapM]
  | object entries => rw [eval, evalNode, evalEntries_eq_mapM]
  | binary op left right => cases op <;> simp only [eval, evalNode]
  | _ => rw [eval, evalNode]

theorem mapM_congr {α β ε : Type} {f g : α → Except ε β} {l : List α} (h : ∀ a ∈ l, f a = g a) :
    l.mapM f = l.mapM g := by
  induction l with
  | nil => rfl
  | cons a l ih =>
    rw [List.forall_mem_cons] at h
    rw [List.mapM_cons, List.mapM_cons, h.1, ih h.2]

/-- The values of lower trees are all that counts. -/
theorem evalNode_congr (h : ∀ u : Tree, u.height < t.height → value u = value' u) :
    evalNode env scope value t = evalNode env scope value' t := by
  have hitems : ∀ items : List Tree, heightAll items < t.height →
      items.mapM value = items.mapM value' := by
    intro items hlt
    apply mapM_congr
    intro u hu
    have hle := height_le_heightAll hu
    exact h u (by omega)
  cases t with
  | literal v | var name => rw [evalNode, evalNode]
  | array items =>
    rw [Tree.height] at hitems
    rw [evalNode, evalNode, hitems items (by omega)]
  | object entries =>
    rw [Tree.height] at h
    have hentries : (entries.mapM fun e => return (e.1, ← value e.2) :
        EvalResult (List (String × Value))) = entries.mapM fun e => return (e.1, ← value' e.2) := by
      apply mapM_congr
      intro e he
      have hle := height_le_heightEntries he
      rw [h e.2 (by omega)]
    rw [evalNode, evalNode, hentries]
  | member target name =>
    rw [Tree.height] at h
    rw [evalNode, evalNode, h target (by omega)]
  | index target position =>
    rw [Tree.height] at h
    rw [evalNode, evalNode, h target (by omega), h position (by omega)]
  | call name args =>
    rw [Tree.height] at hitems
    rw [evalNode, evalNode, hitems args (by omega)]
  | method receiver name args =>
    rw [Tree.height] at h hitems
    rw [evalNode, evalNode, h receiver (by omega), hitems args (by omega)]
  | unary op operand =>
    rw [Tree.height] at h
    rw [evalNode, evalNode, h operand (by omega)]
  | binary op left right =>
    rw [Tree.height] at h
    have hleft := h left (by omega)
    have hright := h right (by omega)
    cases op <;> simp only [evalNode, hleft, hright]
  | ternary condition yes no =>
    rw [Tree.height] at h
    rw [evalNode, evalNode, h condition (by omega), h yes (by omega), h no (by omega)]
  | coalesce left right =>
    rw [Tree.height] at h
    rw [evalNode, evalNode, h left (by omega), h right (by omega)]

/-- Evaluation calls itself through no more nodes than the tree is high. -/
theorem evalWithin_eq_eval {other : Tree → EvalResult Value} {depth : Nat}
    (h : t.height ≤ depth) : evalWithin env scope other depth t = eval env scope t := by
  induction depth generalizing t with
  | zero =>
    have hpos := t.height_pos
    omega
  | succ depth ih =>
    rw [evalWithin, eval_eq_evalNode]
    apply evalNode_congr
    intro u hu
    exact ih (by omega)

end Evaluation

/-! ### Parsed trees -/

theorem exists_derives_of_parse {source : List Char} {t : Tree} (h : parse source = .ok t) :
    ∃ k ts, k ≤ operatorLimit ∧ Derives nestingLimit k ts t := by
  obtain ⟨lexemes, -, hparse⟩ := bind_eq_ok.mp h
  obtain ⟨k, hk, ht⟩ := exists_derives_of_parseTokens hparse
  exact ⟨k, _, hk, ht⟩

/-- Whatever the length of a text, its tree holds at most 512 operators and is at most 641 nodes
high, so that evaluation never calls itself deeper than that: it makes no difference what would be
the value of a tree further down. -/
theorem parse_bounded {source : List Char} {t : Tree} (h : parse source = .ok t) :
    t.operators ≤ 512 ∧ t.height ≤ 2 * 64 + 512 + 1 ∧
      ∀ env scope other, evalWithin env scope other (2 * 64 + 512 + 1) t = eval env scope t := by
  obtain ⟨k, ts, hk, ht⟩ := exists_derives_of_parse h
  obtain ⟨hoperators, hheight⟩ := ht.sized
  have hlimit : k ≤ 512 := hk
  have hnesting : t.height ≤ 2 * 64 + k := hheight
  refine ⟨by omega, by omega, fun env scope other => ?_⟩
  exact evalWithin_eq_eval (by omega)

/-- A call, a literal and a prefix operator, which are no counted operators, above a member. -/
def flagsTree : Tree := .call "f" [.array [.unary .not (.member (.var "a") "b")]]

theorem parse_flagsTree : parse "f([!a.b])".toList = .ok flagsTree := by
  let nameToken : Munch := ⟨.ident "f", ['f'], "([!a.b])".toList⟩
  let parenToken : Munch := ⟨.mark .leftParen, ['('], "[!a.b])".toList⟩
  let bracketToken : Munch := ⟨.mark .leftBracket, ['['], "!a.b])".toList⟩
  let bangToken : Munch := ⟨.mark .bang, ['!'], "a.b])".toList⟩
  let targetToken : Munch := ⟨.ident "a", ['a'], ".b])".toList⟩
  let pointToken : Munch := ⟨.mark .dot, ['.'], "b])".toList⟩
  let memberToken : Munch := ⟨.ident "b", ['b'], "])".toList⟩
  let closeToken : Munch := ⟨.mark .rightBracket, [']'], ")".toList⟩
  let endToken : Munch := ⟨.mark .rightParen, [')'], []⟩
  have htokens : tokens "f([!a.b])".toList = .ok _ :=
    (tokensFrom_of_readToken 0 [] (m := nameToken) (by decide) rfl).trans <|
    (tokensFrom_of_readToken 1 _ (m := parenToken) (by decide) rfl).trans <|
    (tokensFrom_of_readToken 2 _ (m := bracketToken) (by decide) rfl).trans <|
    (tokensFrom_of_readToken 3 _ (m := bangToken) (by decide) rfl).trans <|
    (tokensFrom_of_readToken 4 _ (m := targetToken) (by decide) rfl).trans <|
    (tokensFrom_of_readToken 5 _ (m := pointToken) (by decide) rfl).trans <|
    (tokensFrom_of_readToken 6 _ (m := memberToken) (by decide) rfl).trans <|
    (tokensFrom_of_readToken 7 _ (m := closeToken) (by decide) rfl).trans <|
    (tokensFrom_of_readToken 8 _ (m := endToken) (by decide) rfl).trans <|
    tokensFrom_nil _ _
  have hmember : (innerAt 61).operand 1 [.ident "a", .mark .dot, .ident "b"]
      (.member (.var "a") "b") :=
    .postfixed <| .member (.primary <| .var (by decide)) (List.mem_cons_self ..) (.name "b")
  have hbang : Derives 62 1 [.mark .bang, .ident "a", .mark .dot, .ident "b"]
      (.unary .not (.member (.var "a") "b")) :=
    .plain <| .operand <| .operand <| .operand <| .operand <| .operand <| .operand <| .operand <|
      .operator (List.mem_cons_self ..) hmember
  have harray := Derives.of_postfixed (.primary <| .array (.last hbang))
  have hname : Postfixed (innerAt 63) 0 [.ident "f"] (.var "f") := .primary <| .var (by decide)
  have hcall := Derives.of_postfixed (.call hname (.last harray))
  exact (parse_eq htokens).trans (parseTokens_of_derives (by decide) hcall)

theorem parse_bounded_flagsTree :
    parse "f([!a.b])".toList = .ok flagsTree ∧ flagsTree.operators = 1 ∧ flagsTree.height = 5 ∧
      flagsTree.operators ≤ 512 ∧ flagsTree.height ≤ 2 * 64 + 512 + 1 ∧
      ∀ env scope other,
        evalWithin env scope other (2 * 64 + 512 + 1) flagsTree = eval env scope flagsTree :=
  ⟨parse_flagsTree, rfl, rfl, parse_bounded parse_flagsTree⟩

end Stencil.Expr
