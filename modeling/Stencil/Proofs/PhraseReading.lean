import Stencil.Proofs.TokenReading

/-!
Reading phrases that are made of like phrases: chains of operands with operators between them, and
lists up to a closing mark. Both are loops of a parser for one phrase, bounded by the number of
tokens that are left, which is enough because every turn takes at least one of them.
-/
namespace Stencil.Expr

open Grammar Parse

/-! ### Binary operators -/

/-- The binary operators of a level at the front of the tokens. -/
def operatorsAt : Level → OperatorAt
  | .or => orAt
  | .and => andAt
  | .equality => equalityAt
  | .comparison => comparisonAt
  | .sum => sumAt
  | .product => productAt

section Operators

variable {rank : Level} {op : BinaryOp} {os : List Token} {s s' : State}

/-- Whatever stands behind the tokens of an operator, the parser finds that operator in them. -/
theorem found_of_mem (h : os ∈ operatorTokens op) (us : List Token) :
    strength (os ++ us) = (level op).strength ∧
      operatorsAt (level op) ((os ++ us).take 2) = some (op, os.length) := by
  cases op <;> simp only [operatorTokens, List.mem_cons, List.not_mem_nil, or_false] at h <;>
    first
    | (subst h; exact ⟨rfl, rfl⟩)
    | (rcases h with rfl | rfl <;> exact ⟨rfl, rfl⟩)

theorem mem_of_operatorsAt {ts : List Token} {n : Nat}
    (h : operatorsAt rank ts = some (op, n)) :
    level op = rank ∧ ts.take n ∈ operatorTokens op ∧ n ≤ ts.length := by
  cases rank <;>
    simp only [operatorsAt, orAt, andAt, equalityAt, comparisonAt, sumAt, productAt] at h <;>
    split at h <;> cases h <;>
    exact ⟨rfl, by simp [operatorTokens], by simp⟩

theorem acceptOperator_of_advances (hlevel : level op = rank) (hos : os ∈ operatorTokens op)
    (h : Advances s 0 os s') : acceptOperator (operatorsAt rank) s = .ok (some op, s') := by
  obtain ⟨used, hused, rfl⟩ := h.rest
  have hfound := (found_of_mem hos s'.tokens).2
  rw [← h.tokens_eq, State.tokens, ← List.map_take, hlevel, List.length_map] at hfound
  have hstep : Advances s 0 (used.map Lexeme.token) { s with rest := s.rest.drop used.length } := by
    rw [hused, List.drop_left]
    exact ⟨⟨used, hused, rfl⟩, rfl, rfl⟩
  rw [acceptOperator, hfound, h.unique hstep]

theorem advances_of_acceptOperator {found : Option BinaryOp}
    (h : acceptOperator (operatorsAt rank) s = .ok (found, s')) :
    (∃ op os, found = some op ∧ level op = rank ∧ os ∈ operatorTokens op ∧ Advances s 0 os s') ∨
      (found = none ∧ s' = s) := by
  rw [acceptOperator] at h
  split at h
  · next op n hfound =>
    obtain ⟨rfl, rfl⟩ := Prod.mk.inj (Except.ok.inj h)
    obtain ⟨hlevel, hmem, hn⟩ := mem_of_operatorsAt hfound
    rw [List.length_map, List.length_take] at hn
    rw [← List.map_take, List.take_take, Nat.min_eq_left (by omega)] at hmem
    refine Or.inl ⟨op, _, rfl, hlevel, hmem, ⟨⟨s.rest.take n, ?_, rfl⟩, rfl, rfl⟩⟩
    exact (List.take_append_drop n s.rest).symm
  · obtain ⟨rfl, rfl⟩ := Prod.mk.inj (Except.ok.inj h)
    exact Or.inr ⟨rfl, rfl⟩

end Operators

/-! ### Chains -/

section Chains

variable {loop : Nat → Tree → Parse Tree} {operand : Parse Tree} {i : Nat} {L : Phrases Tree}
  {joins : List Token → (Tree → Tree → Tree) → Prop}

/-- A loop that goes on with a tree as long as an operator of the chain comes next. -/
structure Extends (loop : Nat → Tree → Parse Tree) (operand : Parse Tree)
    (joins : List Token → (Tree → Tree → Tree) → Prop) : Prop where
  stop : ∀ {left : Tree} {s : State}, loop 0 left s = .ok (left, s)
  join : ∀ {n : Nat} {left : Tree} {os : List Token} {f : Tree → Tree → Tree} {s s' : State},
    joins os f → Advances s 0 os s' →
    loop (n + 1) left s = (do
      let right ← operand
      countOperator
      loop n (f left right) : Parse Tree) s'
  leave : ∀ {n : Nat} {left : Tree} {s : State},
    (∀ os f s', joins os f → ¬ Advances s 0 os s') → loop (n + 1) left s = .ok (left, s)

theorem extends_chainRest (rank : Level) (operand : Parse Tree) :
    Extends (chainRest operand (operatorsAt rank)) operand (Joins rank) where
  stop := rfl
  join := by
    intro n left os f s s' hjoins hstep
    obtain ⟨hlevel, hos⟩ := hjoins
    rw [chainRest, bind_of_ok (acceptOperator_of_advances hlevel hos hstep)]
  leave := by
    intro n left s hnone
    rw [chainRest]
    cases haccept : acceptOperator (operatorsAt rank) s with
    | error e =>
      rw [acceptOperator] at haccept
      split at haccept <;> cases haccept
    | ok r =>
      rcases advances_of_acceptOperator haccept with ⟨op, os, -, hlevel, hos, hstep⟩ | ⟨hnot, hs⟩
      · exact absurd hstep (hnone os _ _ (.binary hlevel hos))
      · rw [bind_of_ok haccept, hnot, hs]
        rfl

theorem extends_coalesceRest (operand : Parse Tree) :
    Extends (coalesceRest operand) operand JoinsNull where
  stop := rfl
  join := by
    intro n left os f s s' hjoins hstep
    obtain ⟨⟩ := hjoins
    rw [coalesceRest, bind_of_ok (accept_of_advances hstep)]
    rfl
  leave := by
    intro n left s hnone
    have hnot : s.tokens.head? ≠ some (.mark .coalesce) := by
      intro hhead
      obtain ⟨ts, hts⟩ := List.head?_eq_some_iff.mp hhead
      exact hnone _ _ _ .coalesce (Advances.of_tokens_cons hts)
    rw [coalesceRest, bind_of_ok (accept_of_ne hnot)]
    rfl

/-- A loop that starts behind a phrase of the chain ends behind one. -/
theorem Extends.exists_chain (hloop : Extends loop operand joins) {b : Nat}
    (hoperand : Reads operand b L) {s : State} :
    ∀ {n k : Nat} {ts : List Token} {left a : Tree} {s₁ s' : State}, Chain joins L k ts left →
      Advances s k ts s₁ → loop n left s₁ = .ok (a, s') →
      ∃ k ts, Chain joins L k ts a ∧ Advances s k ts s' := by
  intro n
  induction n with
  | zero =>
    intro k ts left a s₁ s' hleft hs h
    obtain ⟨rfl, rfl⟩ := Prod.mk.inj (Except.ok.inj (hloop.stop.symm.trans h))
    exact ⟨k, ts, hleft, hs⟩
  | succ n ih =>
    intro k ts left a s₁ s' hleft hs h
    by_cases hnext : ∃ os f s₂, joins os f ∧ Advances s₁ 0 os s₂
    · obtain ⟨os, f, s₂, hjoins, hos⟩ := hnext
      rw [hloop.join hjoins hos] at h
      obtain ⟨right, s₃, hright, h⟩ := exists_of_bind h
      obtain ⟨⟨⟩, s₄, hcount, h⟩ := exists_of_bind h
      obtain ⟨j, us, hr, hus⟩ := hoperand.sound hright
      have hall := ((hs.trans hos).trans hus).trans (advances_of_countOperator hcount)
      rw [List.append_nil] at hall
      exact ih (.join hleft hjoins hr) hall h
    · rw [hloop.leave fun os f s₂ hjoins hos => hnext ⟨os, f, s₂, hjoins, hos⟩] at h
      obtain ⟨rfl, rfl⟩ := Prod.mk.inj (Except.ok.inj h)
      exact ⟨k, ts, hleft, hs⟩

/-- Behind a phrase of the chain, the loop has that phrase and turns enough for the tokens left. -/
theorem Extends.exists_loop (hloop : Extends loop operand joins) (hoperand : Reads operand (i + 1) L)
    (hjoins : ∀ os f us, joins os f → strength (os ++ us) = i) (hi : 0 < i) {k : Nat}
    {ts : List Token} {t : Tree} {s s' : State} (ht : Chain joins L k ts t)
    (hs : Advances s k ts s') (hleft : strength s'.tokens < i + 1) :
    ∃ n, s'.rest.length ≤ n ∧ (do
      let first ← operand
      loop (← tokensLeft) first : Parse Tree) s = loop n t s' := by
  induction ht generalizing s' with
  | operand ht =>
    refine ⟨s'.rest.length, Nat.le_refl _, ?_⟩
    rw [bind_of_ok (hoperand.complete ht hs hleft)]
    rfl
  | @join k j ts os us l r f hl hf hr ih =>
    rw [List.append_assoc, Nat.add_assoc] at hs
    obtain ⟨s₁, hs₁, hback⟩ := hs.exists_split
    obtain ⟨s₂, hos, hback⟩ := (hback.of_eq (Nat.zero_add (j + 1)).symm rfl).exists_split
    obtain ⟨s₃, hus, hcount⟩ := (hback.of_eq rfl (List.append_nil us).symm).exists_split
    have hfront : strength s₁.tokens = i := by
      rw [hos.tokens_eq]
      exact hjoins os f _ hf
    obtain ⟨n, hn, hrun⟩ := ih hs₁ (by omega)
    have hne : 0 < os.length := by
      refine List.length_pos_iff.mpr ?_
      rintro rfl
      have hnil : 0 = i := hjoins [] f [] hf
      omega
    have hosLength := hos.length_le
    have husLength := hus.length_le
    have hcountLength : s₃.rest.length = s'.rest.length := by simpa using hcount.length_le
    obtain ⟨m, rfl⟩ : ∃ m, n = m + 1 := ⟨n - 1, by omega⟩
    have hsame : s₃.tokens = s'.tokens := hcount.tokens_eq
    refine ⟨m, by omega, ?_⟩
    rw [hrun, hloop.join hf hos, bind_of_ok (hoperand.complete hr hus (hsame ▸ hleft)),
      bind_of_ok (countOperator_of_advances hcount)]

theorem Extends.reads (hloop : Extends loop operand joins) (hoperand : Reads operand (i + 1) L)
    (hjoins : ∀ os f us, joins os f → strength (os ++ us) = i) (hi : 0 < i) :
    Reads (do
      let first ← operand
      loop (← tokensLeft) first) i (Chain joins L) where
  sound := by
    intro s a s' h
    obtain ⟨first, s₁, hfirst, h⟩ := exists_of_bind h
    obtain ⟨k, ts, ht, hs⟩ := hoperand.sound hfirst
    exact hloop.exists_chain hoperand (.operand ht) hs h
  complete := by
    intro k ts a s s' ha hs hleft
    obtain ⟨n, -, hrun⟩ := hloop.exists_loop hoperand hjoins hi ha hs (by omega)
    rw [hrun]
    cases n with
    | zero => exact hloop.stop
    | succ n =>
      refine hloop.leave fun os f s₁ hf hos => ?_
      have hfront := hjoins os f s₁.tokens hf
      rw [← hos.tokens_eq] at hfront
      omega

theorem reads_chain (rank : Level) (hoperand : Reads operand (rank.strength + 1) L) :
    Reads (chain (operatorsAt rank) operand) rank.strength (Chain (Joins rank) L) := by
  refine (extends_chainRest rank operand).reads hoperand ?_ (by cases rank <;> decide)
  rintro os f us ⟨hlevel, hos⟩
  rw [(found_of_mem hos _).1, hlevel]

end Chains

/-! ### Lists -/

/-- The tokens that an expression can begin with. -/
def opens : Token → Bool
  | .mark m => [.leftParen, .leftBracket, .leftBrace, .bang, .minus, .plus].contains m
  | _ => true

/-- Phrases of the language are not empty, and begin like expressions. -/
def Begins {α : Type} (L : Phrases α) : Prop :=
  ∀ k ts a, L k ts a → ∃ token us, ts = token :: us ∧ opens token = true

/-- The marks that end a list. -/
def closers : List Mark := [.rightParen, .rightBracket, .rightBrace]

section Lists

variable {α : Type} {item : Parse α} {close : Mark} {L : Phrases α} {k : Nat} {ts : List Token}
  {s s' : State}

theorem strength_closer (h : close ∈ closers) (us : List Token) :
    strength (.mark close :: us) = 0 := by
  simp only [closers, List.mem_cons, List.not_mem_nil, or_false] at h
  rcases h with rfl | rfl | rfl <;> rfl

theorem accept_of_begins (hL : Begins L) {a : α} (ha : L k ts a) (hs : Advances s k ts s')
    (hclose : close ∈ closers) : accept close s = .ok (false, s) := by
  obtain ⟨token, us, rfl, hopens⟩ := hL k ts a ha
  refine accept_of_ne ?_
  rw [hs.tokens_cons, List.head?_cons]
  intro htoken
  rw [Option.some.inj htoken] at hopens
  simp only [closers, List.mem_cons, List.not_mem_nil, or_false] at hclose
  rcases hclose with rfl | rfl | rfl <;> cases hopens

/-- What can stand between an item of a list and the closing mark. -/
inductive Following (L : Phrases α) : Phrases (List α)
  | nil : Following L 0 [] []
  | comma {k : Nat} {ts : List Token} {as : List α} (has : Listed L k ts as) :
      Following L k (.mark .comma :: ts) as

theorem Following.listed_cons {j : Nat} {us : List Token} {a : α} {as : List α} (ha : L k ts a)
    (h : Following L j us as) : Listed L (k + j) (ts ++ us) (a :: as) := by
  cases h with
  | nil =>
    rw [List.append_nil]
    exact .last ha
  | comma has => exact .cons ha has

theorem exists_following_of_listed {as : List α} (h : Listed L k ts as) :
    (k = 0 ∧ ts = [] ∧ as = []) ∨
      ∃ j i us vs a bs, L j us a ∧ Following L i vs bs ∧ k = j + i ∧ ts = us ++ vs ∧
        as = a :: bs := by
  cases h with
  | nil => exact Or.inl ⟨rfl, rfl, rfl⟩
  | @last _ _ a ha =>
    exact Or.inr ⟨k, 0, ts, [], a, [], ha, .nil, rfl, (List.append_nil ts).symm, rfl⟩
  | @cons j i us vs a bs ha has =>
    exact Or.inr ⟨j, i, us, _, a, bs, ha, .comma has, rfl, rfl, rfl⟩

/-- Behind an item, the loop ends behind what can follow it and the closing mark. -/
theorem following_of_itemsRest {b : Nat} (hitem : Reads item b L) :
    ∀ {n : Nat} {before as : List α} {s s' : State},
      itemsRest item close n before s = .ok (as, s') →
      ∃ k ts more, as = before.reverse ++ more ∧ Following L k ts more ∧
        Advances s k (ts ++ [.mark close]) s' := by
  intro n
  induction n with
  | zero => exact fun h => absurd h fail_ne_ok
  | succ n ih =>
    intro before as s s' h
    rw [itemsRest] at h
    obtain ⟨found, s₁, haccept, hback⟩ := exists_of_bind h
    rcases advances_of_accept haccept with ⟨rfl, hclose⟩ | ⟨rfl, rfl, -⟩
    · obtain ⟨rfl, rfl⟩ := pure_eq_ok hback
      exact ⟨0, [], [], (List.append_nil _).symm, .nil, hclose⟩
    · obtain ⟨⟨⟩, s₂, hexpect, htail⟩ := exists_of_bind hback
      have hcomma := advances_of_expect hexpect
      obtain ⟨found, s₃, haccept, hnext⟩ := exists_of_bind htail
      rcases advances_of_accept haccept with ⟨rfl, hclose⟩ | ⟨rfl, rfl, -⟩
      · obtain ⟨rfl, rfl⟩ := pure_eq_ok hnext
        exact ⟨0, [.mark .comma], [], (List.append_nil _).symm, .comma .nil, hcomma.trans hclose⟩
      · obtain ⟨a, s₄, hrun, hrest⟩ := exists_of_bind hnext
        obtain ⟨k, ts, ha, hts⟩ := hitem.sound hrun
        obtain ⟨j, us, more, rfl, hmore, hus⟩ := ih hrest
        refine ⟨k + j, .mark .comma :: (ts ++ us), a :: more, ?_, .comma (hmore.listed_cons ha), ?_⟩
        · rw [List.reverse_cons, List.append_assoc]
          rfl
        · have hall := hcomma.trans (hts.trans hus)
          exact hall.of_eq (Nat.zero_add _) (by simp)

theorem listed_of_items {b : Nat} (hitem : Reads item b L) {as : List α}
    (h : items item close s = .ok (as, s')) :
    ∃ k ts, Listed L k ts as ∧ Advances s k (ts ++ [.mark close]) s' := by
  rw [items] at h
  obtain ⟨found, s₁, haccept, hback⟩ := exists_of_bind h
  rcases advances_of_accept haccept with ⟨rfl, hclose⟩ | ⟨rfl, rfl, -⟩
  · obtain ⟨rfl, rfl⟩ := pure_eq_ok hback
    exact ⟨0, [], .nil, hclose⟩
  · obtain ⟨a, s₂, hrun, hrest⟩ := exists_of_bind hback
    obtain ⟨k, ts, ha, hts⟩ := hitem.sound hrun
    obtain ⟨j, us, more, rfl, hmore, hus⟩ := following_of_itemsRest hitem hrest
    have hall := hts.trans hus
    rw [← List.append_assoc] at hall
    exact ⟨k + j, ts ++ us, hmore.listed_cons ha, hall⟩

theorem strength_following {as : List α} (h : Following L k ts as) (hclose : close ∈ closers)
    (us : List Token) : strength (ts ++ .mark close :: us) = 0 := by
  cases h with
  | nil => exact strength_closer hclose us
  | comma has => rfl

/-- The loop takes what can follow an item, if it has turns enough. -/
theorem itemsRest_of_following (hitem : Reads item 1 L) (hbegins : Begins L)
    (hclose : close ∈ closers) :
    ∀ {n : Nat} {before as : List α} {k : Nat} {ts : List Token} {s s' : State},
      Following L k ts as → Advances s k (ts ++ [.mark close]) s' → s.rest.length ≤ n →
      itemsRest item close n before s = .ok (before.reverse ++ as, s') := by
  intro n
  induction n with
  | zero =>
    intro before as k ts s s' _ hs hn
    have hlength := hs.length_le
    rw [List.length_append, List.length_singleton] at hlength
    omega
  | succ n ih =>
    intro before as k ts s s' has hs hn
    rw [itemsRest]
    cases has with
    | nil =>
      rw [bind_of_ok (accept_of_advances hs), List.append_nil]
      rfl
    | comma has =>
      rw [List.cons_append] at hs
      obtain ⟨s₁, hcomma, hback⟩ := hs.exists_cons
      have hhead : s.tokens.head? ≠ some (.mark close) := by
        rw [hcomma.tokens_cons, List.head?_cons]
        rintro ⟨⟩
        exact absurd hclose (by decide)
      rw [bind_of_ok (accept_of_ne hhead), if_neg Bool.false_ne_true,
        bind_of_ok (expect_of_advances hcomma)]
      rcases exists_following_of_listed has with
        ⟨rfl, rfl, rfl⟩ | ⟨j, i, us, vs, a, bs, ha, hbs, rfl, rfl, rfl⟩
      · rw [bind_of_ok (accept_of_advances hback), List.append_nil]
        rfl
      · rw [List.append_assoc] at hback
        obtain ⟨s₂, hus, hvs⟩ := hback.exists_split
        have hnext : strength s₂.tokens = 0 := by
          rw [hvs.tokens_eq, List.append_assoc]
          exact strength_following hbs hclose _
        have hcommaLength := hcomma.length_le
        have husLength := hus.length_le
        rw [List.length_singleton] at hcommaLength
        rw [bind_of_ok (accept_of_begins hbegins ha hus hclose), if_neg Bool.false_ne_true,
          bind_of_ok (hitem.complete ha hus (by omega)), ih hbs hvs (by omega), List.reverse_cons,
          List.append_assoc]
        rfl

theorem items_of_listed (hitem : Reads item 1 L) (hbegins : Begins L) (hclose : close ∈ closers)
    {as : List α} (has : Listed L k ts as) (hs : Advances s k (ts ++ [.mark close]) s') :
    items item close s = .ok (as, s') := by
  rw [items]
  rcases exists_following_of_listed has with
    ⟨rfl, rfl, rfl⟩ | ⟨j, i, us, vs, a, bs, ha, hbs, rfl, rfl, rfl⟩
  · rw [bind_of_ok (accept_of_advances hs)]
    rfl
  · rw [List.append_assoc] at hs
    obtain ⟨s₁, hus, hvs⟩ := hs.exists_split
    have hnext : strength s₁.tokens = 0 := by
      rw [hvs.tokens_eq, List.append_assoc]
      exact strength_following hbs hclose _
    rw [bind_of_ok (accept_of_begins hbegins ha hus hclose), if_neg Bool.false_ne_true,
      bind_of_ok (hitem.complete ha hus (by omega))]
    exact itemsRest_of_following hitem hbegins hclose hbs hvs (Nat.le_refl _)

end Lists

end Stencil.Expr
