import Stencil.Proofs.GrammarReading
import Stencil.Proofs.Constants

/-!
What the parser accepts: a text is an expression exactly if the grammar derives all its tokens within
the limits of nesting and of operators. No tokens have two derivations that differ in their tree or
in the number of operators, within any limits.
-/
namespace Stencil.Expr

open Grammar Parse Text

namespace Grammar

/-! ### More levels of nesting -/

section Levels

variable {inner inner' : Inner} {k : Nat} {ts : List Token} {t : Tree}

/-- Every phrase of the inner levels is one of other inner levels. -/
structure Inner.Within (inner inner' : Inner) : Prop where
  expression : ∀ {k ts t}, inner.expression k ts t → inner'.expression k ts t
  operand : ∀ {k ts t}, inner.operand k ts t → inner'.operand k ts t

theorem Listed.imp {α : Type} {L L' : Phrases α} {as : List α}
    (hL : ∀ {k ts a}, L k ts a → L' k ts a) (h : Listed L k ts as) : Listed L' k ts as := by
  induction h with
  | nil => exact .nil
  | last ha => exact .last (hL ha)
  | cons ha has ih => exact .cons (hL ha) ih

theorem Chain.imp {joins : List Token → (Tree → Tree → Tree) → Prop} {L L' : Phrases Tree}
    (hL : ∀ {k ts t}, L k ts t → L' k ts t) (h : Chain joins L k ts t) : Chain joins L' k ts t := by
  induction h with
  | operand ht => exact .operand (hL ht)
  | join hl hf hr ih => exact .join ih hf (hL hr)

theorem Entry.within (h : inner.Within inner') {r : String × Tree} (hr : Entry inner k ts r) :
    Entry inner' k ts r := by
  obtain ⟨hkey, ht⟩ := hr
  exact .entry hkey (h.expression ht)

theorem Primary.within (h : inner.Within inner') (ht : Primary inner k ts t) :
    Primary inner' k ts t := by
  cases ht with
  | int n => exact .int n
  | float x => exact .float x
  | string s => exact .string s
  | word hmem => exact .word hmem
  | var hnot => exact .var hnot
  | parens ht => exact .parens (h.expression ht)
  | array hitems => exact .array (hitems.imp h.expression)
  | object hentries => exact .object (hentries.imp (Entry.within h))

theorem Postfixed.within (h : inner.Within inner') (ht : Postfixed inner k ts t) :
    Postfixed inner' k ts t := by
  induction ht with
  | primary ht => exact .primary (ht.within h)
  | member ht hpoint hname ih => exact .member ih hpoint hname
  | method ht hpoint hname hargs ih => exact .method ih hpoint hname (hargs.imp h.expression)
  | index ht hposition ih => exact .index ih (h.expression hposition)
  | call ht hargs ih => exact .call ih (hargs.imp h.expression)

theorem Prefixed.within (h : inner.Within inner') (ht : Prefixed inner k ts t) :
    Prefixed inner' k ts t := by
  cases ht with
  | postfixed ht => exact .postfixed (ht.within h)
  | operator hop ht => exact .operator hop (h.operand ht)

theorem Coalescence.within (h : inner.Within inner') (ht : Coalescence inner k ts t) :
    Coalescence inner' k ts t :=
  ht.imp <| .imp <| .imp <| .imp <| .imp <| .imp <| .imp <| .within h

theorem Conditional.within (h : inner.Within inner') (ht : Conditional inner k ts t) :
    Conditional inner' k ts t := by
  cases ht with
  | plain ht => exact .plain (ht.within h)
  | choice hcondition hyes hno =>
    exact .choice (hcondition.within h) (h.expression hyes) (h.expression hno)

theorem innerAt_within_succ (depth : Nat) : (innerAt depth).Within (innerAt (depth + 1)) := by
  induction depth with
  | zero => exact ⟨fun h => h.elim, fun h => h.elim⟩
  | succ depth ih => exact ⟨Conditional.within ih, Prefixed.within ih⟩

theorem Derives.mono {depth depth' : Nat} (hle : depth ≤ depth') (h : Derives depth k ts t) :
    Derives depth' k ts t := by
  induction hle with
  | refl => exact h
  | step _ ih => exact (innerAt_within_succ _).expression ih

theorem Derives.of_postfixed {depth : Nat} (h : Postfixed (innerAt depth) k ts t) :
    Derives (depth + 1) k ts t :=
  .plain <| .operand <| .operand <| .operand <| .operand <| .operand <| .operand <| .operand <|
    .postfixed h

end Levels

/-! ### Names that are called -/

/-- A name in pairs of parentheses. -/
inductive Bracketed (name : String) : List Token → Prop
  | bare : Bracketed name [.ident name]
  | parens {ts : List Token} (h : Bracketed name ts) :
      Bracketed name (.mark .leftParen :: (ts ++ [.mark .rightParen]))

theorem Chain.operand_of_var {joins : List Token → (Tree → Tree → Tree) → Prop}
    {L : Phrases Tree} {k : Nat} {ts : List Token} {name : String}
    (hjoins : ∀ os f l r, joins os f → f l r ≠ .var name) (h : Chain joins L k ts (.var name)) :
    L k ts (.var name) := by
  generalize ht : Tree.var name = t at h
  cases h with
  | operand h => exact h
  | join hl hf hr => exact absurd ht.symm (hjoins _ _ _ _ hf)

/-- Only a name, possibly in parentheses, has the meaning of a name: nothing else can be called. -/
theorem bracketed_of_derives (name : String) :
    ∀ {depth k : Nat} {ts : List Token}, Derives depth k ts (.var name) → Bracketed name ts := by
  have hbinary : ∀ rank os f l r, Joins rank os f → f l r ≠ .var name := by
    rintro rank os f l r ⟨-, -⟩
    nofun
  have hnull : ∀ os f l r, JoinsNull os f → f l r ≠ .var name := by
    rintro os f l r ⟨⟩
    nofun
  intro depth
  induction depth with
  | zero => exact fun h => h.elim
  | succ depth ih =>
    rintro k ts ⟨h⟩
    have hprefixed : Prefixed (innerAt depth) k ts (.var name) :=
      (((((((Chain.operand_of_var hnull h).operand_of_var (hbinary .or)).operand_of_var
        (hbinary .and)).operand_of_var (hbinary .equality)).operand_of_var
        (hbinary .comparison)).operand_of_var (hbinary .sum)).operand_of_var (hbinary .product))
    cases hprefixed with
    | postfixed h =>
      cases h with
      | primary h =>
        cases h with
        | var hnot => exact .bare
        | parens ht => exact .parens (ih ht)

end Grammar

/-! ### Acceptance -/

/-- Both derivations say how the parser runs that has room for both of them. -/
theorem Grammar.Derives.unique {depth depth' k k' : Nat} {ts : List Token} {t t' : Tree}
    (h : Derives depth k ts t) (h' : Derives depth' k' ts t') : k = k' ∧ t = t' := by
  let lexemes : List Lexeme := ts.map fun token => ⟨token, [], 0⟩
  have htokens : lexemes.map Lexeme.token = ts := by
    rw [List.map_map]
    exact List.map_id ts
  have hreads := (matches_nestedUpTo (max depth depth')).expression
  have hrest : lexemes = lexemes ++ [] := (List.append_nil lexemes).symm
  have hs : Advances ⟨lexemes, k + k', 0⟩ k ts ⟨[], k', 0⟩ :=
    ⟨⟨lexemes, hrest, htokens⟩, Nat.add_comm k k', rfl⟩
  have hs' : Advances ⟨lexemes, k + k', 0⟩ k' ts ⟨[], k, 0⟩ := ⟨⟨lexemes, hrest, htokens⟩, rfl, rfl⟩
  have hrun := hreads.complete (h.mono (Nat.le_max_left _ _)) hs Nat.zero_lt_one
  have hrun' := hreads.complete (h'.mono (Nat.le_max_right _ _)) hs' Nat.zero_lt_one
  rw [hrun] at hrun'
  obtain ⟨rfl, hstates⟩ := Prod.mk.inj (Except.ok.inj hrun')
  exact ⟨(State.mk.inj hstates).2.1.symm, rfl⟩

theorem parseTokens_of_derives {lexemes : List Lexeme} {stop k : Nat} {t : Tree}
    (hk : k ≤ operatorLimit) (h : Derives nestingLimit k (lexemes.map Lexeme.token) t) :
    parseTokens lexemes stop = .ok t := by
  have hs : Advances ⟨lexemes, operatorLimit, stop⟩ k (lexemes.map Lexeme.token)
      ⟨[], operatorLimit - k, stop⟩ :=
    ⟨⟨lexemes, (List.append_nil lexemes).symm, rfl⟩, (Nat.sub_add_cancel hk).symm, rfl⟩
  have hrun := (matches_nestedUpTo nestingLimit).expression.complete h hs Nat.zero_lt_one
  rw [parseTokens, hrun]
  rfl

theorem exists_derives_of_parseTokens {lexemes : List Lexeme} {stop : Nat} {t : Tree}
    (h : parseTokens lexemes stop = .ok t) :
    ∃ k, k ≤ operatorLimit ∧ Derives nestingLimit k (lexemes.map Lexeme.token) t := by
  rw [parseTokens] at h
  obtain ⟨⟨found, s⟩, hrun, hrest⟩ := bind_eq_ok.mp h
  obtain ⟨k, ts, ht, hs⟩ := (matches_nestedUpTo nestingLimit).expression.sound hrun
  have hbudget : operatorLimit = s.budget + k := hs.budget
  have htokens : lexemes.map Lexeme.token = ts ++ s.tokens := hs.tokens_eq
  cases hleft : s.rest with
  | nil =>
    simp only [hleft] at hrest
    obtain rfl := Except.ok.inj hrest
    rw [State.tokens, hleft, List.map_nil, List.append_nil] at htokens
    exact ⟨k, by omega, htokens ▸ ht⟩
  | cons l rest =>
    simp only [hleft] at hrest
    cases hrest

/-- A text of tokens is an expression exactly if the grammar derives its tokens with at most 64
expressions and prefix operators inside one another and at most 512 operators. The derived tree is
the only one, and every other text is a syntax error. -/
theorem parse_iff_derives {source : List Char} {lexemes : List Lexeme}
    (htokens : tokens source = .ok lexemes) :
    (∀ t, parse source = .ok t ↔ ∃ k ≤ 512, Derives 64 k (lexemes.map Lexeme.token) t) ∧
    (∀ depth depth' k k' t t', Derives depth k (lexemes.map Lexeme.token) t →
      Derives depth' k' (lexemes.map Lexeme.token) t' → k = k' ∧ t = t') ∧
    ((∀ t, ∀ k ≤ 512, ¬ Derives 64 k (lexemes.map Lexeme.token) t) →
      ∃ e : SyntaxError, parse source = .error e) := by
  have hiff : ∀ t, parse source = .ok t ↔
      ∃ k ≤ 512, Derives 64 k (lexemes.map Lexeme.token) t := by
    intro t
    rw [parse_eq htokens]
    constructor
    · exact exists_derives_of_parseTokens
    · rintro ⟨k, hk, ht⟩
      exact parseTokens_of_derives hk ht
  refine ⟨hiff, fun _ _ _ _ _ _ h h' => h.unique h', fun hnone => ?_⟩
  cases hparse : parse source with
  | error e => exact ⟨e, rfl⟩
  | ok t =>
    obtain ⟨k, hk, ht⟩ := (hiff t).mp hparse
    exact absurd ht (hnone t k hk)

/-- A name in parentheses is called, with a comma behind the only argument. -/
theorem parse_iff_derives_call :
    ∃ lexemes, tokens "(f)(1,)".toList = .ok lexemes ∧
      ∀ t, parse "(f)(1,)".toList = .ok t ↔ t = .call "f" [.literal (.number (.int 1))] := by
  have htokens : tokens "(f)(1,)".toList =
      .ok [⟨.mark .leftParen, "(".toList, 0⟩, ⟨.ident "f", "f".toList, 1⟩,
        ⟨.mark .rightParen, ")".toList, 2⟩, ⟨.mark .leftParen, "(".toList, 3⟩,
        ⟨.int 1, "1".toList, 4⟩, ⟨.mark .comma, ",".toList, 5⟩,
        ⟨.mark .rightParen, ")".toList, 6⟩] := by
    let parenToken : Munch := ⟨.mark .leftParen, ['('], "f)(1,)".toList⟩
    let nameToken : Munch := ⟨.ident "f", ['f'], ")(1,)".toList⟩
    let closeToken : Munch := ⟨.mark .rightParen, [')'], "(1,)".toList⟩
    let openToken : Munch := ⟨.mark .leftParen, ['('], "1,)".toList⟩
    let oneToken : Munch := ⟨.int 1, ['1'], ",)".toList⟩
    let commaToken : Munch := ⟨.mark .comma, [','], ")".toList⟩
    let endToken : Munch := ⟨.mark .rightParen, [')'], []⟩
    exact (tokensFrom_of_readToken 0 [] (m := parenToken) (by decide) rfl).trans <|
      (tokensFrom_of_readToken 1 _ (m := nameToken) (by decide) rfl).trans <|
      (tokensFrom_of_readToken 2 _ (m := closeToken) (by decide) rfl).trans <|
      (tokensFrom_of_readToken 3 _ (m := openToken) (by decide) rfl).trans <|
      (tokensFrom_of_readToken 4 _ (m := oneToken) (by decide) rfl).trans <|
      (tokensFrom_of_readToken 5 _ (m := commaToken) (by decide) rfl).trans <|
      (tokensFrom_of_readToken 6 _ (m := endToken) (by decide) rfl).trans <|
      tokensFrom_nil _ _
  obtain ⟨hiff, hunique, -⟩ := parse_iff_derives htokens
  have hname : Derives 63 0 [.ident "f"] (.var "f") :=
    .of_postfixed <| .primary <| .var (by decide)
  have hone : Derives 63 0 [.int 1] (.literal (.number (.int 1))) :=
    .of_postfixed <| .primary <| .int 1
  have hcall : Derives 64 0 [.mark .leftParen, .ident "f", .mark .rightParen, .mark .leftParen,
      .int 1, .mark .comma, .mark .rightParen] (.call "f" [.literal (.number (.int 1))]) :=
    .of_postfixed <| .call (.primary (.parens hname)) (.cons hone .nil)
  refine ⟨_, htokens, fun t => ⟨fun hparse => ?_, ?_⟩⟩
  · obtain ⟨k, -, ht⟩ := (hiff t).mp hparse
    exact (hunique _ _ _ _ _ _ ht hcall).2
  · rintro rfl
    exact (hiff _).mpr ⟨0, by decide, hcall⟩

end Stencil.Expr
