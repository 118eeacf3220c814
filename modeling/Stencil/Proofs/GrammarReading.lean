import Stencil.Proofs.PhraseReading

/-!
The parsers read the grammar, production by production and then level by level of nesting. A text is
therefore an expression exactly if the grammar derives its tokens within the limits; and since a
parser has one result, with any budget and at any level, the grammar is unambiguous.
-/
namespace Stencil.Expr

open Grammar Parse

/-! ### How phrases begin -/

section Beginnings

variable {inner : Inner} {k : Nat} {ts : List Token} {t : Tree}

theorem begins_primary : Begins (Primary inner) := by
  rintro k ts t (_ | _ | _ | _ | _ | _ | _ | _) <;> exact ⟨_, _, rfl, rfl⟩

theorem begins_postfixed : Begins (Postfixed inner) := by
  intro k ts t h
  induction h with
  | primary ht => exact begins_primary _ _ _ ht
  | member ht hpoint hname ih | method ht hpoint hname hargs ih | index ht hposition ih
  | call ht hargs ih =>
    obtain ⟨token, us, rfl, hopens⟩ := ih
    exact ⟨token, _, List.cons_append, hopens⟩

theorem begins_prefixed : Begins (Prefixed inner) := by
  rintro k ts t (ht | @⟨_, token, ts, op, _, hop, -⟩)
  · exact begins_postfixed _ _ _ ht
  · refine ⟨token, ts, rfl, ?_⟩
    cases op <;> simp only [prefixTokens, List.mem_cons, List.not_mem_nil, or_false] at hop
    · rcases hop with rfl | rfl <;> rfl
    all_goals
      subst hop
      rfl

theorem Begins.chain {joins : List Token → (Tree → Tree → Tree) → Prop} {L : Phrases Tree}
    (hL : Begins L) : Begins (Chain joins L) := by
  intro k ts t h
  induction h with
  | operand ht => exact hL _ _ _ ht
  | join hl hf hr ih =>
    obtain ⟨token, us, rfl, hopens⟩ := ih
    exact ⟨token, _, List.cons_append, hopens⟩

theorem begins_conditional : Begins (Conditional inner) := by
  have hcoalescence : Begins (Coalescence inner) :=
    begins_prefixed.chain.chain.chain.chain.chain.chain.chain
  rintro k ts t (ht | ⟨hcondition, -, -⟩)
  · exact hcoalescence _ _ _ ht
  · obtain ⟨token, us, rfl, hopens⟩ := hcoalescence _ _ _ hcondition
    exact ⟨token, _, List.cons_append, hopens⟩

theorem begins_entry : Begins (Entry inner) := by
  rintro k ts r ⟨⟨⟩, -⟩ <;> exact ⟨_, _, rfl, rfl⟩

/-- A phrase without a prefix operator does not begin with one. -/
theorem prefixAt_of_postfixed (h : Postfixed inner k ts t) (us : List Token) :
    prefixAt (ts ++ us).head? = none := by
  induction h generalizing us with
  | primary ht =>
    cases ht with
    | @word name v h =>
      simp only [literalWords, List.mem_cons, List.not_mem_nil, or_false, Prod.mk.injEq] at h
      rcases h with ⟨rfl, -⟩ | ⟨rfl, -⟩ | ⟨rfl, -⟩ | ⟨rfl, -⟩ | ⟨rfl, -⟩ | ⟨rfl, -⟩ | ⟨rfl, -⟩ <;> rfl
    | @var name h =>
      have hne : name ≠ "not" := fun he => h (he ▸ List.mem_cons_self)
      simp only [List.cons_append, List.head?_cons]
      unfold prefixAt
      split <;> simp_all
    | _ => rfl
  | member ht hpoint hname ih | method ht hpoint hname hargs ih | index ht hposition ih
  | call ht hargs ih =>
    rw [List.append_assoc]
    exact ih _

end Beginnings

/-! ### Names -/

section Names

variable {name : String} {token : Token} {s s' : State}

theorem named_of_mem {v : Value} (h : (name, v) ∈ literalWords) : named name = .literal v := by
  simp only [literalWords, List.mem_cons, List.not_mem_nil, or_false, Prod.mk.injEq] at h
  rcases h with ⟨rfl, rfl⟩ | ⟨rfl, rfl⟩ | ⟨rfl, rfl⟩ | ⟨rfl, rfl⟩ | ⟨rfl, rfl⟩ | ⟨rfl, rfl⟩ |
    ⟨rfl, rfl⟩ <;> rfl

theorem named_cases (name : String) :
    (∃ v, (name, v) ∈ literalWords ∧ named name = .literal v) ∨
      (name ∉ literalWords.map Prod.fst ∧ named name = .var name) := by
  by_cases h : name ∈ literalWords.map Prod.fst
  · obtain ⟨⟨word, v⟩, hmem, rfl⟩ := List.mem_map.mp h
    exact Or.inl ⟨v, hmem, named_of_mem hmem⟩
  · refine Or.inr ⟨h, ?_⟩
    simp only [literalWords, List.map_cons, List.map_nil, List.mem_cons, List.not_mem_nil,
      or_false, not_or] at h
    unfold named
    split <;> simp_all

theorem named_of_notMem (h : name ∉ reserved) : named name = .var name := by
  rcases named_cases name with ⟨v, hmem, -⟩ | ⟨-, hvar⟩
  · exact absurd (List.mem_cons_of_mem _ (List.mem_map_of_mem hmem)) h
  · exact hvar

theorem primary_named {inner : Inner} (h : name ≠ "not") :
    Primary inner 0 [.ident name] (named name) := by
  rcases named_cases name with ⟨v, hmem, hnamed⟩ | ⟨hnot, hnamed⟩
  · rw [hnamed]
    exact .word hmem
  · rw [hnamed]
    exact .var (List.not_mem_cons_of_ne_of_not_mem h hnot)

theorem exists_advances_of_tokens {ts : List Token} (h : s.tokens = token :: ts) :
    ∃ s', Advances s 0 [token] s' ∧ s'.tokens = ts := by
  have hstep := Advances.of_tokens_cons h
  exact ⟨_, hstep, (List.cons.inj (hstep.tokens_cons.symm.trans h)).2⟩

theorem memberName_of_advances (hname : MemberName token name) (h : Advances s 0 [token] s') :
    memberName s = .ok (name, s') := by
  rw [memberName, bind_of_ok (peek_apply s), h.tokens_cons, List.head?_cons]
  cases hname with
  | name name => exact bind_of_ok (skip_of_advances h)
  | position n hn =>
    simp only [if_pos hn]
    exact bind_of_ok (skip_of_advances h)

theorem advances_of_memberName (h : memberName s = .ok (name, s')) :
    ∃ token, MemberName token name ∧ Advances s 0 [token] s' := by
  cases htokens : s.tokens with
  | nil =>
    rw [memberName, bind_of_ok (peek_apply s), htokens] at h
    exact absurd h fail_ne_ok
  | cons token ts =>
    obtain ⟨s₁, hstep, -⟩ := exists_advances_of_tokens htokens
    by_cases hname : ∃ found, MemberName token found
    · obtain ⟨found, hfound⟩ := hname
      rw [memberName_of_advances hfound hstep] at h
      obtain ⟨rfl, rfl⟩ := Prod.mk.inj (Except.ok.inj h)
      exact ⟨token, hfound, hstep⟩
    · rw [memberName, bind_of_ok (peek_apply s), htokens, List.head?_cons] at h
      cases token with
      | ident found => exact absurd ⟨found, .name found⟩ hname
      | int n =>
        have hn : ¬ 0 ≤ n.toInt := fun hn => hname ⟨_, .position n hn⟩
        simp only [if_neg hn] at h
        exact absurd h fail_ne_ok
      | float x | string text | mark m => exact absurd h fail_ne_ok

end Names

/-! ### Productions -/

/-- The parsers one level further in read the phrases of that level. -/
structure Matches (nested : Nested) (inner : Inner) : Prop where
  expression : Reads nested.expression 1 inner.expression
  operand : Reads nested.operand 9 inner.operand
  begins : Begins inner.expression

section Productions

variable {nested : Nested} {inner : Inner} {s s' : State} {k : Nat} {ts : List Token} {t : Tree}
  {m : Mark}

theorem entry_of_key {token : Token} {key : String} (hkey : Key token key)
    (h : s.tokens.head? = some token) :
    entry nested s = (do
      skip
      expect .colon
      return (key, ← nested.expression) : Parse (String × Tree)) s := by
  rw [entry, bind_of_ok (peek_apply s), h]
  cases hkey <;> rfl

theorem exists_key_of_entry {r : String × Tree} (h : entry nested s = .ok (r, s')) :
    ∃ token key ts, Key token key ∧ s.tokens = token :: ts := by
  rw [entry, bind_of_ok (peek_apply s)] at h
  cases htokens : s.tokens with
  | nil =>
    rw [htokens] at h
    exact absurd h (nomatch ·)
  | cons token ts =>
    rw [htokens, List.head?_cons] at h
    cases token with
    | ident name => exact ⟨_, name, ts, .name name, rfl⟩
    | string text => exact ⟨_, text, ts, .text text, rfl⟩
    | int n => exact ⟨_, _, ts, .position n, rfl⟩
    | float x | mark m => exact absurd h (nomatch ·)

theorem Matches.reads_entry (h : Matches nested inner) : Reads (entry nested) 1 (Entry inner) where
  sound := by
    intro s r s' hrun
    obtain ⟨token, key, us, hkey, htokens⟩ := exists_key_of_entry hrun
    obtain ⟨s₁, htoken, -⟩ := exists_advances_of_tokens htokens
    rw [entry_of_key hkey (by rw [htokens, List.head?_cons]),
      bind_of_ok (skip_of_advances htoken)] at hrun
    obtain ⟨⟨⟩, s₂, hexpect, hrest⟩ := exists_of_bind hrun
    obtain ⟨t, s₃, hexpression, hreturn⟩ := exists_of_bind hrest
    obtain ⟨rfl, rfl⟩ := pure_eq_ok hreturn
    obtain ⟨k, ts, ht, hts⟩ := h.expression.sound hexpression
    have hall := (htoken.trans (advances_of_expect hexpect)).trans hts
    rw [Nat.zero_add] at hall
    exact ⟨k, _, .entry hkey ht, hall⟩
  complete := by
    rintro k ts _ s s' ⟨hkey, ht⟩ hs hnext
    obtain ⟨s₁, htoken, hback⟩ := hs.exists_cons
    obtain ⟨s₂, hcolon, hts⟩ := hback.exists_cons
    rw [entry_of_key hkey (by rw [htoken.tokens_cons, List.head?_cons]),
      bind_of_ok (skip_of_advances htoken), bind_of_ok (expect_of_advances hcolon),
      bind_of_ok (h.expression.complete ht hts hnext)]
    rfl

/-- The parsers of lists of expressions. -/
theorem Matches.items_of_listed (h : Matches nested inner) {close : Mark} (hclose : close ∈ closers)
    {as : List Tree} (has : Listed inner.expression k ts as)
    (hs : Advances s k (ts ++ [.mark close]) s') :
    items nested.expression close s = .ok (as, s') :=
  Expr.items_of_listed h.expression h.begins hclose has hs

theorem Matches.primary_of_phrase (h : Matches nested inner) (ht : Primary inner k ts t)
    (hs : Advances s k ts s') : primary nested s = .ok (t, s') := by
  rw [primary, bind_of_ok (peek_apply s)]
  cases ht with
  | int n | float x | string text =>
    rw [hs.tokens_cons, List.head?_cons]
    exact bind_of_ok (skip_of_advances hs)
  | word hmem =>
    rw [hs.tokens_cons, List.head?_cons, ← named_of_mem hmem]
    exact bind_of_ok (skip_of_advances hs)
  | var hnot =>
    rw [hs.tokens_cons, List.head?_cons, ← named_of_notMem hnot]
    exact bind_of_ok (skip_of_advances hs)
  | @parens k us _ ht =>
    rw [hs.tokens_cons, List.head?_cons]
    obtain ⟨s₁, hopen, hback⟩ := hs.exists_cons
    obtain ⟨s₂, hus, hclose, hnext⟩ := hback.exists_last
    have hstrength : strength s₂.tokens < 1 := by
      rw [hnext]
      exact Nat.zero_lt_one
    dsimp only
    rw [bind_of_ok (skip_of_advances hopen), bind_of_ok (h.expression.complete ht hus hstrength),
      bind_of_ok (expect_of_advances hclose)]
    rfl
  | @array k us as has =>
    rw [hs.tokens_cons, List.head?_cons]
    obtain ⟨s₁, hopen, hback⟩ := hs.exists_cons
    dsimp only
    rw [bind_of_ok (skip_of_advances hopen),
      bind_of_ok (h.items_of_listed (by decide) has hback)]
    rfl
  | @object k us as has =>
    rw [hs.tokens_cons, List.head?_cons]
    obtain ⟨s₁, hopen, hback⟩ := hs.exists_cons
    dsimp only
    rw [bind_of_ok (skip_of_advances hopen),
      bind_of_ok (Expr.items_of_listed h.reads_entry begins_entry (by decide) has hback)]
    rfl

theorem Matches.phrase_of_primary (h : Matches nested inner)
    (hnot : s.tokens.head? ≠ some (.ident "not")) (hrun : primary nested s = .ok (t, s')) :
    ∃ k ts, Primary inner k ts t ∧ Advances s k ts s' := by
  rw [primary, bind_of_ok (peek_apply s)] at hrun
  cases htokens : s.tokens with
  | nil =>
    rw [htokens] at hrun
    exact absurd hrun fail_ne_ok
  | cons token us =>
    obtain ⟨s₁, hstep, -⟩ := exists_advances_of_tokens htokens
    have hskip := skip_of_advances hstep
    rw [htokens, List.head?_cons] at hrun hnot
    cases token with
    | int n =>
      simp only [bind_of_ok hskip] at hrun
      obtain ⟨rfl, rfl⟩ := pure_eq_ok hrun
      exact ⟨0, _, .int n, hstep⟩
    | float x =>
      simp only [bind_of_ok hskip] at hrun
      obtain ⟨rfl, rfl⟩ := pure_eq_ok hrun
      exact ⟨0, _, .float x, hstep⟩
    | string text =>
      simp only [bind_of_ok hskip] at hrun
      obtain ⟨rfl, rfl⟩ := pure_eq_ok hrun
      exact ⟨0, _, .string text, hstep⟩
    | ident name =>
      simp only [bind_of_ok hskip] at hrun
      obtain ⟨rfl, rfl⟩ := pure_eq_ok hrun
      exact ⟨0, _, primary_named fun he => hnot (he ▸ rfl), hstep⟩
    | mark m =>
      cases m with
      | leftParen =>
        simp only [bind_of_ok hskip] at hrun
        obtain ⟨inside, s₂, hinside, hrest⟩ := exists_of_bind hrun
        obtain ⟨⟨⟩, s₃, hclose, hreturn⟩ := exists_of_bind hrest
        obtain ⟨rfl, rfl⟩ := pure_eq_ok hreturn
        obtain ⟨k, ts, ht, hts⟩ := h.expression.sound hinside
        have hall := hstep.trans (hts.trans (advances_of_expect hclose))
        rw [Nat.zero_add] at hall
        exact ⟨k, _, .parens ht, hall⟩
      | leftBracket =>
        simp only [bind_of_ok hskip] at hrun
        obtain ⟨as, s₂, hitems, hreturn⟩ := exists_of_bind hrun
        obtain ⟨rfl, rfl⟩ := pure_eq_ok hreturn
        obtain ⟨k, ts, has, hts⟩ := listed_of_items h.expression hitems
        have hall := hstep.trans hts
        rw [Nat.zero_add] at hall
        exact ⟨k, _, .array has, hall⟩
      | leftBrace =>
        simp only [bind_of_ok hskip] at hrun
        obtain ⟨as, s₂, hitems, hreturn⟩ := exists_of_bind hrun
        obtain ⟨rfl, rfl⟩ := pure_eq_ok hreturn
        obtain ⟨k, ts, has, hts⟩ := listed_of_items h.reads_entry hitems
        have hall := hstep.trans hts
        rw [Nat.zero_add] at hall
        exact ⟨k, _, .object has, hall⟩
      | _ => exact absurd hrun fail_ne_ok

/-! ### Members, indexing and calls -/

theorem memberRest_of_member {token : Token} {name : String} (hname : MemberName token name)
    (h : Advances s (1 + 0) [token] s') (hnext : s'.tokens.head? ≠ some (.mark .leftParen)) :
    memberRest nested t s = .ok (.member t name, s') := by
  obtain ⟨s₁, hcount, hback⟩ := h.exists_count
  rw [memberRest, bind_of_ok (countOperator_of_advances hcount),
    bind_of_ok (memberName_of_advances hname hback), bind_of_ok (accept_of_ne hnext)]
  rfl

theorem Matches.memberRest_of_method (h : Matches nested inner) {token : Token} {name : String}
    {args : List Tree} (hname : MemberName token name) (hargs : Listed inner.expression k ts args)
    (hs : Advances s (1 + k) (token :: .mark .leftParen :: (ts ++ [.mark .rightParen])) s') :
    memberRest nested t s = .ok (.method t name args, s') := by
  obtain ⟨s₁, hcount, hback⟩ := hs.exists_count
  obtain ⟨s₂, htoken, hback⟩ := hback.exists_cons
  obtain ⟨s₃, hopen, hback⟩ := hback.exists_cons
  rw [memberRest, bind_of_ok (countOperator_of_advances hcount),
    bind_of_ok (memberName_of_advances hname htoken), bind_of_ok (accept_of_advances hopen),
    if_pos rfl, bind_of_ok (h.items_of_listed (by decide) hargs hback)]
  rfl

theorem Matches.indexRest_of_index (h : Matches nested inner) {position : Tree}
    (hposition : inner.expression k ts position)
    (hs : Advances s (1 + k) (ts ++ [.mark .rightBracket]) s') :
    indexRest nested t s = .ok (.index t position, s') := by
  obtain ⟨s₁, hcount, hback⟩ := hs.exists_count
  obtain ⟨s₂, hts, hclose, hnext⟩ := hback.exists_last
  have hstrength : strength s₂.tokens < 1 := by
    rw [hnext]
    exact Nat.zero_lt_one
  rw [indexRest, bind_of_ok (countOperator_of_advances hcount),
    bind_of_ok (h.expression.complete hposition hts hstrength),
    bind_of_ok (expect_of_advances hclose)]
  rfl

theorem Matches.callRest_of_call (h : Matches nested inner) {name : String} {args : List Tree}
    (hargs : Listed inner.expression k ts args)
    (hs : Advances s k (.mark .leftParen :: (ts ++ [.mark .rightParen])) s') :
    callRest nested (.var name) s = .ok (.call name args, s') := by
  obtain ⟨s₁, hopen, hback⟩ := hs.exists_cons
  rw [callRest, bind_of_ok (skip_of_advances hopen),
    bind_of_ok (h.items_of_listed (by decide) hargs hback)]
  rfl

theorem postfixRest_point {point : Token} (hpoint : point ∈ points) (h : Advances s 0 [point] s')
    (n : Nat) (t : Tree) :
    postfixRest nested (n + 1) t s = (do
      postfixRest nested n (← memberRest nested t) : Parse Tree) s' := by
  rw [postfixRest, bind_of_ok (peek_apply s), h.tokens_cons, List.head?_cons]
  simp only [points, List.mem_cons, List.not_mem_nil, or_false] at hpoint
  rcases hpoint with rfl | rfl <;> exact bind_of_ok (skip_of_advances h)

theorem postfixRest_bracket (h : Advances s 0 [.mark .leftBracket] s') (n : Nat) (t : Tree) :
    postfixRest nested (n + 1) t s = (do
      postfixRest nested n (← indexRest nested t) : Parse Tree) s' := by
  rw [postfixRest, bind_of_ok (peek_apply s), h.tokens_cons, List.head?_cons]
  exact bind_of_ok (skip_of_advances h)

theorem postfixRest_paren (h : Advances s 0 [.mark .leftParen] s') (n : Nat) (t : Tree) :
    postfixRest nested (n + 1) t s = (do
      postfixRest nested n (← callRest nested t) : Parse Tree) s := by
  rw [postfixRest, bind_of_ok (peek_apply s), h.tokens_cons, List.head?_cons]

/-- What binds most tightly is a point, an opening bracket or an opening parenthesis. -/
theorem strength_cases (ts : List Token) :
    strength ts < 9 ∨ ∃ token us, ts = token :: us ∧
      (token ∈ points ∨ token = .mark .leftBracket ∨ token = .mark .leftParen) := by
  unfold strength
  split
  all_goals
    first
    | exact Or.inl (by decide)
    | exact Or.inr ⟨_, _, rfl, by simp [points]⟩

theorem postfixRest_of_strength (h : strength s.tokens < 9) (n : Nat) (t : Tree) :
    postfixRest nested n t s = .ok (t, s) := by
  cases n with
  | zero => rfl
  | succ n =>
    rw [postfixRest, bind_of_ok (peek_apply s)]
    cases htokens : s.tokens with
    | nil => rfl
    | cons token ts =>
      rw [List.head?_cons]
      rw [htokens] at h
      cases token with
      | mark m =>
        cases m with
        | dot | questionDot | leftBracket | leftParen => exact absurd h (Nat.lt_irrefl 9)
        | _ => rfl
      | _ => rfl

section Postfixes

variable {s₀ s₁ : State} {a : Tree}

theorem Matches.postfixed_of_memberRest (h : Matches nested inner) (ht : Postfixed inner k ts t)
    (hs : Advances s₀ k ts s) {point : Token} (hpoint : point ∈ points)
    (hstep : Advances s 0 [point] s₁) (hrun : memberRest nested t s₁ = .ok (a, s')) :
    ∃ k ts, Postfixed inner k ts a ∧ Advances s₀ k ts s' := by
  rw [memberRest] at hrun
  obtain ⟨⟨⟩, s₂, hcount, hback⟩ := exists_of_bind hrun
  obtain ⟨name, s₃, hname, hback⟩ := exists_of_bind hback
  obtain ⟨token, hmember, htoken⟩ := advances_of_memberName hname
  have hfront := ((hs.trans hstep).trans (advances_of_countOperator hcount)).trans htoken
  obtain ⟨found, s₄, haccept, hrest⟩ := exists_of_bind hback
  rcases advances_of_accept haccept with ⟨rfl, hopen⟩ | ⟨rfl, rfl, -⟩
  · obtain ⟨args, s₅, hitems, hreturn⟩ := exists_of_bind hrest
    obtain ⟨rfl, rfl⟩ := pure_eq_ok hreturn
    obtain ⟨j, us, hargs, hus⟩ := listed_of_items h.expression hitems
    refine ⟨_, _, .method ht hpoint hmember hargs, ((hfront.trans hopen).trans hus).of_eq ?_ ?_⟩
    · omega
    · simp
  · obtain ⟨rfl, rfl⟩ := pure_eq_ok hrest
    refine ⟨_, _, .member ht hpoint hmember, hfront.of_eq ?_ ?_⟩
    · omega
    · simp

theorem Matches.postfixed_of_indexRest (h : Matches nested inner) (ht : Postfixed inner k ts t)
    (hs : Advances s₀ k ts s) (hstep : Advances s 0 [.mark .leftBracket] s₁)
    (hrun : indexRest nested t s₁ = .ok (a, s')) :
    ∃ k ts, Postfixed inner k ts a ∧ Advances s₀ k ts s' := by
  rw [indexRest] at hrun
  obtain ⟨⟨⟩, s₂, hcount, hback⟩ := exists_of_bind hrun
  obtain ⟨position, s₃, hexpression, hback⟩ := exists_of_bind hback
  obtain ⟨⟨⟩, s₄, hexpect, hreturn⟩ := exists_of_bind hback
  obtain ⟨rfl, rfl⟩ := pure_eq_ok hreturn
  obtain ⟨j, us, hposition, hus⟩ := h.expression.sound hexpression
  have hfront := (hs.trans hstep).trans (advances_of_countOperator hcount)
  have hall := (hfront.trans hus).trans (advances_of_expect hexpect)
  refine ⟨_, _, .index ht hposition, hall.of_eq ?_ ?_⟩
  · omega
  · simp

theorem Matches.postfixed_of_callRest (h : Matches nested inner) (ht : Postfixed inner k ts t)
    (hs : Advances s₀ k ts s) (hstep : Advances s 0 [.mark .leftParen] s₁)
    (hrun : callRest nested t s = .ok (a, s')) :
    ∃ k ts, Postfixed inner k ts a ∧ Advances s₀ k ts s' := by
  cases t with
  | var name =>
    rw [callRest, bind_of_ok (skip_of_advances hstep)] at hrun
    obtain ⟨args, s₂, hitems, hreturn⟩ := exists_of_bind hrun
    obtain ⟨rfl, rfl⟩ := pure_eq_ok hreturn
    obtain ⟨j, us, hargs, hus⟩ := listed_of_items h.expression hitems
    refine ⟨_, _, .call ht hargs, ((hs.trans hstep).trans hus).of_eq rfl ?_⟩
    simp
  | _ => exact absurd hrun fail_ne_ok

/-- Behind a phrase, the loop ends behind a phrase. -/
theorem Matches.postfixed_of_postfixRest (h : Matches nested inner) :
    ∀ {n k : Nat} {ts : List Token} {t a : Tree} {s s' : State}, Postfixed inner k ts t →
      Advances s₀ k ts s → postfixRest nested n t s = .ok (a, s') →
      ∃ k ts, Postfixed inner k ts a ∧ Advances s₀ k ts s' := by
  intro n
  induction n with
  | zero =>
    intro k ts t a s s' ht hs hrun
    obtain ⟨rfl, rfl⟩ := pure_eq_ok hrun
    exact ⟨k, ts, ht, hs⟩
  | succ n ih =>
    intro k ts t a s s' ht hs hrun
    rcases strength_cases s.tokens with hstrength | ⟨token, us, htokens, hmark⟩
    · rw [postfixRest_of_strength hstrength] at hrun
      obtain ⟨rfl, rfl⟩ := Prod.mk.inj (Except.ok.inj hrun)
      exact ⟨k, ts, ht, hs⟩
    · obtain ⟨s₁, hstep, -⟩ := exists_advances_of_tokens htokens
      rcases hmark with hpoint | rfl | rfl
      · rw [postfixRest_point hpoint hstep] at hrun
        obtain ⟨b, s₂, hmember, hrest⟩ := exists_of_bind hrun
        obtain ⟨j, vs, hb, hvs⟩ := h.postfixed_of_memberRest ht hs hpoint hstep hmember
        exact ih hb hvs hrest
      · rw [postfixRest_bracket hstep] at hrun
        obtain ⟨b, s₂, hindex, hrest⟩ := exists_of_bind hrun
        obtain ⟨j, vs, hb, hvs⟩ := h.postfixed_of_indexRest ht hs hstep hindex
        exact ih hb hvs hrest
      · rw [postfixRest_paren hstep] at hrun
        obtain ⟨b, s₂, hcall, hrest⟩ := exists_of_bind hrun
        obtain ⟨j, vs, hb, hvs⟩ := h.postfixed_of_callRest ht hs hstep hcall
        exact ih hb hvs hrest

end Postfixes

theorem ne_paren_of_mem_points {point : Token} (h : point ∈ points) : point ≠ .mark .leftParen := by
  simp only [points, List.mem_cons, List.not_mem_nil, or_false] at h
  rcases h with rfl | rfl <;> nofun

/-- Behind a phrase, the loop has that phrase and turns enough for the tokens left, unless the phrase
is followed by a parenthesis that does not call it. -/
theorem Matches.exists_postfixRest (h : Matches nested inner) (ht : Postfixed inner k ts t)
    (hs : Advances s k ts s')
    (hnext : s'.tokens.head? = some (.mark .leftParen) → ∃ name, t = .var name) :
    ∃ n, s'.rest.length ≤ n ∧ postfixed nested s = postfixRest nested n t s' := by
  induction ht generalizing s' with
  | primary ht =>
    refine ⟨s'.rest.length, Nat.le_refl _, ?_⟩
    rw [postfixed, bind_of_ok (h.primary_of_phrase ht hs)]
    rfl
  | @member k ts t point token name ht hpoint hname ih =>
    obtain ⟨s₁, hts, hback⟩ := (hs.of_eq (Nat.add_assoc k 1 0) rfl).exists_split
    obtain ⟨n, hn, hrun⟩ := ih hts fun hparen => by
      rw [hback.tokens_cons, List.head?_cons] at hparen
      exact absurd (Option.some.inj hparen) (ne_paren_of_mem_points hpoint)
    obtain ⟨m, rfl, hm⟩ := hback.exists_succ hn
    obtain ⟨s₂, hstep, htoken⟩ := hback.exists_cons
    refine ⟨m, hm, ?_⟩
    rw [hrun, postfixRest_point hpoint hstep, bind_of_ok (memberRest_of_member hname htoken ?_)]
    intro hparen
    obtain ⟨name, hvar⟩ := hnext hparen
    cases hvar
  | @method k j ts us t point token name args ht hpoint hname hargs ih =>
    obtain ⟨s₁, hts, hback⟩ := (hs.of_eq (Nat.add_assoc k 1 j) rfl).exists_split
    obtain ⟨n, hn, hrun⟩ := ih hts fun hparen => by
      rw [hback.tokens_cons, List.head?_cons] at hparen
      exact absurd (Option.some.inj hparen) (ne_paren_of_mem_points hpoint)
    obtain ⟨m, rfl, hm⟩ := hback.exists_succ hn
    obtain ⟨s₂, hstep, hrest⟩ := hback.exists_cons
    refine ⟨m, hm, ?_⟩
    rw [hrun, postfixRest_point hpoint hstep, bind_of_ok (h.memberRest_of_method hname hargs hrest)]
  | @index k j ts us t position ht hposition ih =>
    obtain ⟨s₁, hts, hback⟩ := (hs.of_eq (Nat.add_assoc k 1 j) rfl).exists_split
    obtain ⟨n, hn, hrun⟩ := ih hts fun hparen => by
      rw [hback.tokens_cons, List.head?_cons] at hparen
      cases hparen
    obtain ⟨m, rfl, hm⟩ := hback.exists_succ hn
    obtain ⟨s₂, hstep, hrest⟩ := hback.exists_cons
    refine ⟨m, hm, ?_⟩
    rw [hrun, postfixRest_bracket hstep, bind_of_ok (h.indexRest_of_index hposition hrest)]
  | @call k j ts us name args hname hargs ih =>
    obtain ⟨s₁, hts, hback⟩ := hs.exists_split
    obtain ⟨n, hn, hrun⟩ := ih hts fun _ => ⟨name, rfl⟩
    obtain ⟨m, rfl, hm⟩ := hback.exists_succ hn
    obtain ⟨s₂, hstep, -⟩ := hback.exists_cons
    refine ⟨m, hm, ?_⟩
    rw [hrun, postfixRest_paren hstep, bind_of_ok (h.callRest_of_call hargs hback)]

theorem Matches.postfixed_of_phrase (h : Matches nested inner) (ht : Postfixed inner k ts t)
    (hs : Advances s k ts s') (hnext : strength s'.tokens < 9) :
    postfixed nested s = .ok (t, s') := by
  obtain ⟨n, -, hrun⟩ := h.exists_postfixRest ht hs fun hparen => by
    obtain ⟨us, hus⟩ := List.head?_eq_some_iff.mp hparen
    rw [hus] at hnext
    exact absurd hnext (Nat.lt_irrefl 9)
  rw [hrun, postfixRest_of_strength hnext]

theorem Matches.phrase_of_postfixed (h : Matches nested inner)
    (hnot : s.tokens.head? ≠ some (.ident "not")) (hrun : postfixed nested s = .ok (t, s')) :
    ∃ k ts, Postfixed inner k ts t ∧ Advances s k ts s' := by
  obtain ⟨first, s₁, hfirst, hrest⟩ := exists_of_bind hrun
  obtain ⟨k, ts, ht, hts⟩ := h.phrase_of_primary hnot hfirst
  exact h.postfixed_of_postfixRest (.primary ht) hts hrest

/-! ### Prefix operators, chains and the conditional -/

theorem prefixAt_of_mem {token : Token} {op : UnaryOp} (h : token ∈ prefixTokens op) :
    prefixAt (some token) = some op := by
  cases op <;> simp only [prefixTokens, List.mem_cons, List.not_mem_nil, or_false] at h
  · rcases h with rfl | rfl <;> rfl
  all_goals
    subst h
    rfl

theorem exists_mem_of_prefixAt {op : UnaryOp} (h : prefixAt s.tokens.head? = some op) :
    ∃ token us, s.tokens = token :: us ∧ token ∈ prefixTokens op := by
  cases htokens : s.tokens with
  | nil =>
    rw [htokens] at h
    cases h
  | cons token us =>
    rw [htokens, List.head?_cons] at h
    refine ⟨token, us, rfl, ?_⟩
    unfold prefixAt at h
    split at h <;> cases h
    -- the token is known from the case of the prefix operator
    all_goals
      next htoken =>
        obtain rfl := Option.some.inj htoken
        simp [prefixTokens]

theorem Matches.reads_prefixed (h : Matches nested inner) :
    Reads (prefixed nested) 9 (Prefixed inner) where
  sound := by
    intro s t s' hrun
    rw [prefixed, bind_of_ok (peek_apply s)] at hrun
    cases hop : prefixAt s.tokens.head? with
    | some op =>
      rw [hop] at hrun
      obtain ⟨token, us, htokens, hmem⟩ := exists_mem_of_prefixAt hop
      obtain ⟨s₁, hstep, -⟩ := exists_advances_of_tokens htokens
      simp only [bind_of_ok (skip_of_advances hstep)] at hrun
      obtain ⟨operand, s₂, hoperand, hreturn⟩ := exists_of_bind hrun
      obtain ⟨rfl, rfl⟩ := pure_eq_ok hreturn
      obtain ⟨k, ts, ht, hts⟩ := h.operand.sound hoperand
      exact ⟨k, _, .operator hmem ht, (hstep.trans hts).of_eq (Nat.zero_add k) rfl⟩
    | none =>
      rw [hop] at hrun
      have hnot : s.tokens.head? ≠ some (.ident "not") := by
        intro hhead
        rw [hhead] at hop
        cases hop
      obtain ⟨k, ts, ht, hts⟩ := h.phrase_of_postfixed hnot hrun
      exact ⟨k, ts, .postfixed ht, hts⟩
  complete := by
    intro k ts t s s' ht hs hnext
    rw [prefixed, bind_of_ok (peek_apply s)]
    cases ht with
    | postfixed ht =>
      rw [hs.tokens_eq, prefixAt_of_postfixed ht]
      exact h.postfixed_of_phrase ht hs hnext
    | operator hmem ht =>
      rw [hs.tokens_cons, List.head?_cons, prefixAt_of_mem hmem]
      obtain ⟨s₁, hstep, hback⟩ := hs.exists_cons
      dsimp only
      rw [bind_of_ok (skip_of_advances hstep), bind_of_ok (h.operand.complete ht hback hnext)]
      rfl

theorem Matches.reads_coalescence (h : Matches nested inner) :
    Reads (coalescence nested) 2 (Coalescence inner) := by
  have hproduct : Reads (product nested) 8 (Product inner) := reads_chain .product h.reads_prefixed
  have hsum : Reads (sum nested) 7 (Sum inner) := reads_chain .sum hproduct
  have hcomparison : Reads (comparison nested) 6 (Comparison inner) := reads_chain .comparison hsum
  have hequality : Reads (equality nested) 5 (Equality inner) := reads_chain .equality hcomparison
  have hconjunction : Reads (conjunction nested) 4 (Conjunction inner) := reads_chain .and hequality
  have hdisjunction : Reads (disjunction nested) 3 (Disjunction inner) :=
    reads_chain .or hconjunction
  refine (extends_coalesceRest (disjunction nested)).reads hdisjunction ?_ (by decide)
  rintro os f us ⟨⟩
  rfl

theorem Matches.reads_conditional (h : Matches nested inner) :
    Reads (conditional nested) 1 (Conditional inner) where
  sound := by
    intro s t s' hrun
    rw [conditional] at hrun
    obtain ⟨condition, s₁, hfirst, hback⟩ := exists_of_bind hrun
    obtain ⟨k, ts, hcondition, hts⟩ := h.reads_coalescence.sound hfirst
    obtain ⟨found, s₂, haccept, hrest⟩ := exists_of_bind hback
    rcases advances_of_accept haccept with ⟨rfl, hquestion⟩ | ⟨rfl, rfl, -⟩
    · obtain ⟨yes, s₃, hrunYes, hback⟩ := exists_of_bind hrest
      obtain ⟨⟨⟩, s₄, hexpect, hback⟩ := exists_of_bind hback
      obtain ⟨no, s₅, hrunNo, hreturn⟩ := exists_of_bind hback
      obtain ⟨rfl, rfl⟩ := pure_eq_ok hreturn
      obtain ⟨j, us, hyes, hus⟩ := h.expression.sound hrunYes
      obtain ⟨i, vs, hno, hvs⟩ := h.expression.sound hrunNo
      have hall := (((hts.trans hquestion).trans hus).trans (advances_of_expect hexpect)).trans hvs
      refine ⟨_, _, .choice hcondition hyes hno, hall.of_eq rfl ?_⟩
      simp
    · obtain ⟨rfl, rfl⟩ := pure_eq_ok hrest
      exact ⟨k, ts, .plain hcondition, hts⟩
  complete := by
    intro k ts t s s' ht hs hnext
    rw [conditional]
    cases ht with
    | plain ht =>
      have hquestion : s'.tokens.head? ≠ some (.mark .question) := by
        intro hhead
        obtain ⟨us, hus⟩ := List.head?_eq_some_iff.mp hhead
        rw [hus] at hnext
        exact absurd hnext (Nat.lt_irrefl 1)
      rw [bind_of_ok (h.reads_coalescence.complete ht hs (by omega)),
        bind_of_ok (accept_of_ne hquestion)]
      rfl
    | @choice k j i ts us vs condition yes no hcondition hyes hno =>
      obtain ⟨s₁, hts, hback⟩ := (hs.of_eq (Nat.add_assoc k j i) rfl).exists_split
      have hfirst : strength s₁.tokens < 2 := by
        rw [hback.tokens_cons]
        exact Nat.one_lt_two
      obtain ⟨s₂, hquestion, hback⟩ := hback.exists_cons
      obtain ⟨s₃, hus, hback⟩ := hback.exists_split
      have hsecond : strength s₃.tokens < 1 := by
        rw [hback.tokens_cons]
        exact Nat.zero_lt_one
      obtain ⟨s₄, hcolon, hvs⟩ := hback.exists_cons
      rw [bind_of_ok (h.reads_coalescence.complete hcondition hts hfirst),
        bind_of_ok (accept_of_advances hquestion), if_pos rfl,
        bind_of_ok (h.expression.complete hyes hus hsecond),
        bind_of_ok (expect_of_advances hcolon), bind_of_ok (h.expression.complete hno hvs hnext)]
      rfl

end Productions

/-! ### Levels of nesting -/

theorem matches_nestedUpTo : ∀ depth : Nat, Matches (nestedUpTo depth) (innerAt depth) := by
  intro depth
  induction depth with
  | zero =>
    have hnone : ∀ bound, Reads (fail .tooDeep : Parse Tree) bound fun _ _ _ => False :=
      fun bound => ⟨fun h => absurd h fail_ne_ok, fun h => h.elim⟩
    exact ⟨hnone 1, hnone 9, fun k ts t h => h.elim⟩
  | succ depth ih => exact ⟨ih.reads_conditional, ih.reads_prefixed, begins_conditional⟩

end Stencil.Expr
