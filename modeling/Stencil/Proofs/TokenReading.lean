import Stencil.Proofs.Grammar
import Stencil.Proofs.Concatenation

/-!
What it means that a parser reads a kind of phrase. Whatever it takes off the front of the tokens is
such a phrase, counted off the budget; and it takes a phrase in front wherever the token behind does
not bind more tightly to the phrase than the parser leaves alone.
-/
namespace Stencil.Expr

open Grammar Parse

/-! ### Moving over tokens -/

def State.tokens (s : State) : List Token := s.rest.map Lexeme.token

/-- From one state to another over some tokens, with `k` operators counted. -/
structure Advances (s : State) (k : Nat) (ts : List Token) (s' : State) : Prop where
  rest : ∃ used, s.rest = used ++ s'.rest ∧ used.map Lexeme.token = ts
  budget : s.budget = s'.budget + k
  stop : s'.stop = s.stop

namespace Advances

variable {s s' s'' : State} {k j : Nat} {ts us : List Token} {token : Token}

theorem refl (s : State) : Advances s 0 [] s := ⟨⟨[], rfl, rfl⟩, rfl, rfl⟩

theorem trans (h : Advances s k ts s') (h' : Advances s' j us s'') :
    Advances s (k + j) (ts ++ us) s'' := by
  obtain ⟨used, hused, rfl⟩ := h.rest
  obtain ⟨more, hmore, rfl⟩ := h'.rest
  refine ⟨⟨used ++ more, ?_, List.map_append⟩, ?_, h'.stop.trans h.stop⟩
  · rw [hused, hmore, List.append_assoc]
  · have hfirst := h.budget
    have hsecond := h'.budget
    omega

theorem tokens_eq (h : Advances s k ts s') : s.tokens = ts ++ s'.tokens := by
  obtain ⟨used, hused, rfl⟩ := h.rest
  rw [State.tokens, hused, List.map_append]
  rfl

/-- The way over given tokens leads to one state only. -/
theorem unique (h : Advances s k ts s') (h' : Advances s k ts s'') : s' = s'' := by
  obtain ⟨used, hused, hts⟩ := h.rest
  obtain ⟨used', hused', hts'⟩ := h'.rest
  have hlength : used.length = used'.length := by
    have hmaps := congrArg List.length (hts.trans hts'.symm)
    simpa using hmaps
  have hrest := (List.append_inj (hused.symm.trans hused') hlength).2
  have hbudget : s'.budget = s''.budget := by
    have hfirst := h.budget
    have hsecond := h'.budget
    omega
  have hstop : s'.stop = s''.stop := h.stop.trans h'.stop.symm
  cases s'
  cases s''
  simp_all

/-- The way over two phrases leads over the first one. -/
theorem exists_split (h : Advances s (k + j) (ts ++ us) s'') :
    ∃ s', Advances s k ts s' ∧ Advances s' j us s'' := by
  obtain ⟨used, hused, hts⟩ := h.rest
  obtain ⟨first, second, rfl, hfirst, hsecond⟩ := List.map_eq_append_iff.mp hts
  refine ⟨⟨second ++ s''.rest, s''.budget + j, s.stop⟩, ⟨⟨first, ?_, hfirst⟩, ?_, rfl⟩,
    ⟨⟨second, rfl, hsecond⟩, rfl, h.stop⟩⟩
  · rw [hused, List.append_assoc]
  · have hbudget := h.budget
    simp only
    omega

/-- The way over a token and more leads over the token. -/
theorem exists_cons (h : Advances s k (token :: ts) s') :
    ∃ s₁, Advances s 0 [token] s₁ ∧ Advances s₁ k ts s' := by
  rw [← Nat.zero_add k, ← List.singleton_append] at h
  exact h.exists_split

/-- The token behind a phrase, and the state between them. -/
theorem exists_last (h : Advances s k (ts ++ [token]) s') :
    ∃ s₁, Advances s k ts s₁ ∧ Advances s₁ 0 [token] s' ∧ s₁.tokens = token :: s'.tokens := by
  rw [← Nat.add_zero k] at h
  obtain ⟨s₁, hts, hlast⟩ := h.exists_split
  exact ⟨s₁, hts, hlast, hlast.tokens_eq⟩

/-- An operator can be counted before any of the tokens. -/
theorem exists_count (h : Advances s (1 + k) ts s') :
    ∃ s₁, Advances s 1 [] s₁ ∧ Advances s₁ k ts s' := by
  rw [← List.nil_append ts] at h
  exact h.exists_split

theorem of_eq (h : Advances s k ts s') (hk : k = j) (hts : ts = us) : Advances s j us s' :=
  hk ▸ hts ▸ h

/-- A token in front can be passed over. -/
theorem of_tokens_cons (h : s.tokens = token :: ts) :
    Advances s 0 [token] { s with rest := s.rest.tail } := by
  obtain ⟨l, rest, hrest, rfl, -⟩ := List.map_eq_cons_iff.mp h
  exact ⟨⟨[l], by simp [hrest], rfl⟩, rfl, rfl⟩

theorem tokens_cons (h : Advances s k (token :: ts) s') :
    s.tokens = token :: (ts ++ s'.tokens) := h.tokens_eq

theorem length_le (h : Advances s k ts s') : s.rest.length = ts.length + s'.rest.length := by
  have hlength := congrArg List.length h.tokens_eq
  simpa [State.tokens] using hlength

/-- A bound on the tokens left goes down with every token. -/
theorem exists_succ {n : Nat} (h : Advances s k (token :: ts) s') (hn : s.rest.length ≤ n) :
    ∃ m, n = m + 1 ∧ s'.rest.length ≤ m := by
  have hlength := h.length_le
  rw [List.length_cons] at hlength
  exact ⟨n - 1, by omega, by omega⟩

end Advances

/-! ### Steps of parsers -/

section Steps

variable {α β : Type} {s s' s'' : State} {m : Mark}

theorem bind_apply (p : Parse α) (f : α → Parse β) (s : State) :
    (p >>= f) s = (p s).bind fun r => f r.1 r.2 := rfl

theorem bind_of_ok {p : Parse α} {f : α → Parse β} {a : α} (h : p s = .ok (a, s')) :
    (p >>= f) s = f a s' := by
  rw [bind_apply, h]
  rfl

/-- Both parsers of a sequence succeed if the sequence does. -/
theorem exists_of_bind {p : Parse α} {f : α → Parse β} {b : β}
    (h : (p >>= f) s = .ok (b, s'')) : ∃ a s', p s = .ok (a, s') ∧ f a s' = .ok (b, s'') := by
  rw [bind_apply] at h
  obtain ⟨⟨a, s'⟩, ha, hb⟩ := bind_eq_ok.mp h
  exact ⟨a, s', ha, hb⟩

theorem pure_eq_ok {a b : α} (h : (pure a : Parse α) s = .ok (b, s')) : a = b ∧ s = s' := by
  simpa using Except.ok.inj h

theorem fail_ne_ok {fault : SyntaxFault} {a : α} : (fail fault : Parse α) s ≠ .ok (a, s') :=
  nofun

theorem peek_apply (s : State) : peek s = .ok (s.tokens.head?, s) := by
  rw [peek, State.tokens, List.head?_map]

theorem skip_of_advances {token : Token} (h : Advances s 0 [token] s') : skip s = .ok ((), s') := by
  have hskip := Advances.of_tokens_cons h.tokens_eq
  rw [skip, hskip.unique h]

/-- A mark that comes next is passed over. -/
theorem accept_of_advances (h : Advances s 0 [.mark m] s') : accept m s = .ok (true, s') := by
  have htokens := h.tokens_cons
  rw [accept, bind_of_ok (peek_apply s), htokens, List.head?_cons]
  simp only [beq_self_eq_true, if_true]
  exact bind_of_ok (skip_of_advances h)

theorem accept_of_ne (h : s.tokens.head? ≠ some (.mark m)) : accept m s = .ok (false, s) := by
  rw [accept, bind_of_ok (peek_apply s)]
  cases hhead : s.tokens.head? with
  | none => rfl
  | some token =>
    cases token with
    | mark other =>
      have hne : (other == m) = false := beq_eq_false_iff_ne.mpr fun he => h (he ▸ hhead)
      simp only [hne, Bool.false_eq_true, if_false]
      rfl
    | int n | float x | string text | ident name => rfl

theorem advances_of_accept {found : Bool} (h : accept m s = .ok (found, s')) :
    (found = true ∧ Advances s 0 [.mark m] s') ∨
      (found = false ∧ s' = s ∧ s.tokens.head? ≠ some (.mark m)) := by
  by_cases hhead : s.tokens.head? = some (.mark m)
  · obtain ⟨ts, hts⟩ := List.head?_eq_some_iff.mp hhead
    have hstep := Advances.of_tokens_cons hts
    rw [accept_of_advances hstep] at h
    obtain ⟨rfl, rfl⟩ := Prod.mk.inj (Except.ok.inj h)
    exact Or.inl ⟨rfl, hstep⟩
  · rw [accept_of_ne hhead] at h
    obtain ⟨rfl, rfl⟩ := Prod.mk.inj (Except.ok.inj h)
    exact Or.inr ⟨rfl, rfl, hhead⟩

theorem expect_of_advances (h : Advances s 0 [.mark m] s') : expect m s = .ok ((), s') := by
  rw [expect, bind_of_ok (accept_of_advances h)]
  rfl

theorem advances_of_expect (h : expect m s = .ok ((), s')) : Advances s 0 [.mark m] s' := by
  rw [expect] at h
  obtain ⟨found, s₁, haccept, hrest⟩ := exists_of_bind h
  rcases advances_of_accept haccept with ⟨rfl, hstep⟩ | ⟨rfl, rfl, -⟩
  · obtain ⟨-, rfl⟩ := pure_eq_ok hrest
    exact hstep
  · obtain ⟨token, s₂, -, hfail⟩ := exists_of_bind hrest
    exact absurd hfail fail_ne_ok

theorem countOperator_of_advances (h : Advances s 1 [] s') : countOperator s = .ok ((), s') := by
  obtain ⟨used, hused, hnil⟩ := h.rest
  obtain rfl := List.map_eq_nil_iff.mp hnil
  have hbudget := h.budget
  have hstop := h.stop
  cases s
  cases s'
  simp_all [countOperator]

theorem advances_of_countOperator (h : countOperator s = .ok ((), s')) : Advances s 1 [] s' := by
  rw [countOperator] at h
  split at h
  · simp at h
  · next left hleft =>
    obtain ⟨-, rfl⟩ := Prod.mk.inj (Except.ok.inj h)
    exact ⟨⟨[], rfl, rfl⟩, hleft, rfl⟩

end Steps

/-! ### What binds to a phrase -/

/-- How tightly the front of the tokens binds to a complete phrase before it. Zero is the front of
tokens that do not go on with a phrase. -/
def strength : List Token → Nat
  | .mark .question :: _ => 1
  | .mark .coalesce :: _ => 2
  | .mark .or :: _ => 3
  | .ident "or" :: _ => 3
  | .mark .and :: _ => 4
  | .ident "and" :: _ => 4
  | .mark .equal :: _ => 5
  | .mark .notEqual :: _ => 5
  | .mark .less :: _ => 6
  | .mark .lessEqual :: _ => 6
  | .mark .greater :: _ => 6
  | .mark .greaterEqual :: _ => 6
  | .ident "in" :: _ => 6
  | .ident "not" :: .ident "in" :: _ => 6
  | .mark .plus :: _ => 7
  | .mark .minus :: _ => 7
  | .mark .star :: _ => 8
  | .mark .slash :: _ => 8
  | .mark .percent :: _ => 8
  | .mark .dot :: _ => 9
  | .mark .questionDot :: _ => 9
  | .mark .leftBracket :: _ => 9
  | .mark .leftParen :: _ => 9
  | _ => 0

/-- The parser takes phrases of the language off the front, and leaves alone what binds less tightly
than the bound. -/
structure Reads {α : Type} (p : Parse α) (bound : Nat) (L : Phrases α) : Prop where
  sound : ∀ {s a s'}, p s = .ok (a, s') → ∃ k ts, L k ts a ∧ Advances s k ts s'
  complete : ∀ {k ts a s s'}, L k ts a → Advances s k ts s' → strength s'.tokens < bound →
    p s = .ok (a, s')

def Grammar.Level.strength : Level → Nat
  | .or => 3
  | .and => 4
  | .equality => 5
  | .comparison => 6
  | .sum => 7
  | .product => 8

end Stencil.Expr
