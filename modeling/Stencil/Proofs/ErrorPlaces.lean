import Stencil.Proofs.TiledText
import Stencil.Proofs.TokenReading

/-!
Where syntax errors point. A parser fails at the next token or, where none is left, at the end of
the text. Both are places of the text, so the offset of an error never lies behind the text nor
inside a character.
-/
namespace Stencil.Expr

open Text Parse

variable {α β : Type} {place : Nat → Prop}

/-- The end of the text and all the tokens that are left stand at places. -/
structure State.Placed (place : Nat → Prop) (s : State) : Prop where
  stop : place s.stop
  rest : ∀ l ∈ s.rest, place l.offset

namespace State.Placed

variable {s : State}

theorem offset (h : s.Placed place) : place s.offset := by
  unfold State.offset
  split
  · exact h.stop
  · next l rest hrest => exact h.rest l (hrest ▸ List.mem_cons_self)

theorem drop (h : s.Placed place) (n : Nat) :
    State.Placed place { s with rest := s.rest.drop n } :=
  ⟨h.stop, fun l hl => h.rest l (List.mem_of_mem_drop hl)⟩

end State.Placed

/-- A parser that goes from places to places and fails at places only. -/
structure StaysIn (place : Nat → Prop) (p : Parse α) : Prop where
  ok : ∀ {s a s'}, s.Placed place → p s = .ok (a, s') → s'.Placed place
  error : ∀ {s e}, s.Placed place → p s = .error e → place e.offset

namespace StaysIn

theorem pure (a : α) : StaysIn place (pure a : Parse α) := by
  constructor
  · intro s b s' hs h
    obtain ⟨-, rfl⟩ := pure_eq_ok h
    exact hs
  · intro s e hs h
    cases h

theorem bind {p : Parse α} {f : α → Parse β} (hp : StaysIn place p)
    (hf : ∀ a, StaysIn place (f a)) : StaysIn place (p >>= f) := by
  constructor
  · intro s b s' hs h
    obtain ⟨a, s₁, ha, hb⟩ := exists_of_bind h
    exact (hf a).ok (hp.ok hs ha) hb
  · intro s e hs h
    rw [bind_apply] at h
    cases hps : p s with
    | error e' =>
      rw [hps] at h
      obtain rfl := Except.error.inj h
      exact hp.error hs hps
    | ok r =>
      rw [hps] at h
      exact (hf r.1).error (hp.ok hs hps) h

theorem fail (fault : SyntaxFault) : StaysIn place (fail fault : Parse α) := by
  constructor
  · intro s a s' hs h
    exact absurd h fail_ne_ok
  · intro s e hs h
    obtain rfl := Except.error.inj h
    exact hs.offset

theorem peek : StaysIn place peek := by
  constructor
  · intro s token s' hs h
    obtain ⟨-, rfl⟩ := Prod.mk.inj (Except.ok.inj h)
    exact hs
  · intro s e hs h
    cases h

theorem tokensLeft : StaysIn place tokensLeft := by
  constructor
  · intro s n s' hs h
    obtain ⟨-, rfl⟩ := Prod.mk.inj (Except.ok.inj h)
    exact hs
  · intro s e hs h
    cases h

theorem skip : StaysIn place skip := by
  constructor
  · intro s u s' hs h
    obtain ⟨-, rfl⟩ := Prod.mk.inj (Except.ok.inj h)
    rw [← List.drop_one]
    exact hs.drop 1
  · intro s e hs h
    cases h

theorem countOperator : StaysIn place countOperator := by
  constructor
  · intro s u s' hs h
    have hstep := advances_of_countOperator h
    obtain ⟨used, hused, -⟩ := hstep.rest
    exact ⟨hstep.stop ▸ hs.stop, fun l hl => hs.rest l (hused ▸ List.mem_append_right used hl)⟩
  · intro s e hs h
    unfold Parse.countOperator at h
    split at h
    · obtain rfl := Except.error.inj h
      exact hs.offset
    · cases h

theorem acceptOperator (operatorAt : OperatorAt) : StaysIn place (acceptOperator operatorAt) := by
  constructor
  · intro s op s' hs h
    unfold Expr.acceptOperator at h
    split at h
    · obtain ⟨-, rfl⟩ := Prod.mk.inj (Except.ok.inj h)
      exact hs.drop _
    · obtain ⟨-, rfl⟩ := Prod.mk.inj (Except.ok.inj h)
      exact hs
  · intro s e hs h
    unfold Expr.acceptOperator at h
    split at h <;> cases h

theorem accept (m : Mark) : StaysIn place (accept m) := by
  refine peek.bind fun token => ?_
  split
  · split
    · exact skip.bind fun _ => .pure _
    · exact .pure _
  · exact .pure _

theorem expect (m : Mark) : StaysIn place (expect m) := by
  refine (accept m).bind fun found => ?_
  split
  · exact .pure _
  · exact peek.bind fun _ => .fail _

/-! ### Chains and lists -/

theorem chainRest {operand : Parse Tree} (h : StaysIn place operand) (operatorAt : OperatorAt)
    (n : Nat) (left : Tree) : StaysIn place (chainRest operand operatorAt n left) := by
  induction n generalizing left with
  | zero => exact .pure _
  | succ n ih =>
    refine (acceptOperator operatorAt).bind fun found => ?_
    split
    · exact .pure _
    · exact h.bind fun right => countOperator.bind fun _ => ih _

theorem chain {operand : Parse Tree} (h : StaysIn place operand) (operatorAt : OperatorAt) :
    StaysIn place (chain operatorAt operand) :=
  h.bind fun first => tokensLeft.bind fun n => h.chainRest operatorAt n first

theorem coalesceRest {operand : Parse Tree} (h : StaysIn place operand) (n : Nat) (left : Tree) :
    StaysIn place (coalesceRest operand n left) := by
  induction n generalizing left with
  | zero => exact .pure _
  | succ n ih =>
    refine (accept .coalesce).bind fun found => ?_
    split
    · exact h.bind fun right => countOperator.bind fun _ => ih _
    · exact .pure _

theorem itemsRest {item : Parse α} (h : StaysIn place item) (close : Mark) (n : Nat)
    (before : List α) : StaysIn place (itemsRest item close n before) := by
  induction n generalizing before with
  | zero => exact .fail _
  | succ n ih =>
    refine (accept close).bind fun found => ?_
    split
    · exact .pure _
    · refine (expect .comma).bind fun _ => (accept close).bind fun found => ?_
      split
      · exact .pure _
      · exact h.bind fun next => ih _

theorem items {item : Parse α} (h : StaysIn place item) (close : Mark) :
    StaysIn place (items item close) := by
  refine (accept close).bind fun found => ?_
  split
  · exact .pure _
  · exact h.bind fun first => tokensLeft.bind fun n => h.itemsRest close n [first]

end StaysIn

/-! ### Phrases -/

/-- The parsers of the next level of nesting stay in places. -/
structure Nested.StayIn (place : Nat → Prop) (nested : Nested) : Prop where
  expression : StaysIn place nested.expression
  operand : StaysIn place nested.operand

namespace Nested.StayIn

variable {nested : Nested}

theorem entry (h : nested.StayIn place) : StaysIn place (entry nested) := by
  have hbehind (key : String) : StaysIn place (do
      skip
      Parse.expect .colon
      return (key, ← nested.expression) : Parse (String × Tree)) :=
    StaysIn.skip.bind fun _ => (StaysIn.expect .colon).bind fun _ =>
      h.expression.bind fun _ => .pure _
  refine StaysIn.peek.bind fun token => ?_
  dsimp only
  split
  · exact (StaysIn.pure _).bind hbehind
  · exact (StaysIn.pure _).bind hbehind
  · exact (StaysIn.pure _).bind hbehind
  · exact (StaysIn.fail _).bind hbehind

theorem primary (h : nested.StayIn place) : StaysIn place (primary nested) := by
  refine StaysIn.peek.bind fun token => ?_
  split
  · exact .fail _
  · exact StaysIn.skip.bind fun _ => .pure _
  · exact StaysIn.skip.bind fun _ => .pure _
  · exact StaysIn.skip.bind fun _ => .pure _
  · exact StaysIn.skip.bind fun _ => .pure _
  · exact StaysIn.skip.bind fun _ => h.expression.bind fun e =>
      (StaysIn.expect .rightParen).bind fun _ => .pure e
  · exact StaysIn.skip.bind fun _ => (h.expression.items .rightBracket).bind fun _ => .pure _
  · exact StaysIn.skip.bind fun _ => (h.entry.items .rightBrace).bind fun _ => .pure _
  · exact .fail _

theorem memberName : StaysIn place memberName := by
  refine StaysIn.peek.bind fun token => ?_
  split
  · exact StaysIn.skip.bind fun _ => .pure _
  · split
    · exact StaysIn.skip.bind fun _ => .pure _
    · exact .fail _
  · exact .fail _

theorem memberRest (h : nested.StayIn place) (e : Tree) : StaysIn place (memberRest nested e) := by
  refine StaysIn.countOperator.bind fun _ => memberName.bind fun name =>
    (StaysIn.accept .leftParen).bind fun found => ?_
  split
  · exact (h.expression.items .rightParen).bind fun _ => .pure _
  · exact .pure _

theorem indexRest (h : nested.StayIn place) (e : Tree) : StaysIn place (indexRest nested e) :=
  StaysIn.countOperator.bind fun _ => h.expression.bind fun _ =>
    (StaysIn.expect .rightBracket).bind fun _ => .pure _

theorem callRest (h : nested.StayIn place) (e : Tree) : StaysIn place (callRest nested e) := by
  unfold Expr.callRest
  split
  · exact StaysIn.skip.bind fun _ => (h.expression.items .rightParen).bind fun _ => .pure _
  · exact .fail _

theorem postfixRest (h : nested.StayIn place) (n : Nat) (e : Tree) :
    StaysIn place (postfixRest nested n e) := by
  induction n generalizing e with
  | zero => exact .pure _
  | succ n ih =>
    refine StaysIn.peek.bind fun token => ?_
    split
    · exact StaysIn.skip.bind fun _ => (h.memberRest e).bind ih
    · exact StaysIn.skip.bind fun _ => (h.memberRest e).bind ih
    · exact StaysIn.skip.bind fun _ => (h.indexRest e).bind ih
    · exact (h.callRest e).bind ih
    · exact .pure _

theorem postfixed (h : nested.StayIn place) : StaysIn place (postfixed nested) :=
  h.primary.bind fun e => StaysIn.tokensLeft.bind fun n => h.postfixRest n e

theorem prefixed (h : nested.StayIn place) : StaysIn place (prefixed nested) := by
  refine StaysIn.peek.bind fun token => ?_
  split
  · exact StaysIn.skip.bind fun _ => h.operand.bind fun _ => .pure _
  · exact h.postfixed

/-- All binary operators, level by level. -/
theorem disjunction (h : nested.StayIn place) : StaysIn place (disjunction nested) := by
  have hproduct : StaysIn place (product nested) := h.prefixed.chain productAt
  have hsum : StaysIn place (sum nested) := hproduct.chain sumAt
  have hcomparison : StaysIn place (comparison nested) := hsum.chain comparisonAt
  have hequality : StaysIn place (equality nested) := hcomparison.chain equalityAt
  have hconjunction : StaysIn place (conjunction nested) := hequality.chain andAt
  exact hconjunction.chain orAt

theorem conditional (h : nested.StayIn place) : StaysIn place (conditional nested) := by
  have hcoalescence : StaysIn place (coalescence nested) :=
    h.disjunction.bind fun first => StaysIn.tokensLeft.bind fun n =>
      h.disjunction.coalesceRest n first
  refine hcoalescence.bind fun condition => (StaysIn.accept .question).bind fun found => ?_
  split
  · exact h.expression.bind fun _ => (StaysIn.expect .colon).bind fun _ =>
      h.expression.bind fun _ => .pure _
  · exact .pure _

end Nested.StayIn

theorem nestedUpTo_stayIn (place : Nat → Prop) (depth : Nat) :
    (nestedUpTo depth).StayIn place := by
  induction depth with
  | zero => exact ⟨.fail _, .fail _⟩
  | succ depth ih => exact ⟨ih.conditional, ih.prefixed⟩

/-! ### The whole text -/

theorem place_of_parseTokens_error (place : Nat → Prop) {lexemes : List Lexeme} {stop : Nat}
    {e : SyntaxError} (hstop : place stop) (hlexemes : ∀ l ∈ lexemes, place l.offset)
    (h : parseTokens lexemes stop = .error e) : place e.offset := by
  have hstart : State.Placed place ⟨lexemes, operatorLimit, stop⟩ := ⟨hstop, hlexemes⟩
  have hstays := (nestedUpTo_stayIn place nestingLimit).expression
  unfold parseTokens at h
  cases hread : (nestedUpTo nestingLimit).expression ⟨lexemes, operatorLimit, stop⟩ with
  | error e' =>
    rw [hread] at h
    obtain rfl := Except.error.inj h
    exact hstays.error hstart hread
  | ok r =>
    -- the tree ends in front of a token that is left
    have hend := hstays.ok hstart hread
    rw [hread] at h
    simp only [bind, Except.bind] at h
    split at h
    · cases h
    · next l rest hrest =>
      obtain rfl := Except.error.inj h
      exact hend.rest l (hrest ▸ List.mem_cons_self)

/-- A text that is no expression is wrong at one of its places. -/
theorem standsAt_of_parse_error {source : List Char} {e : SyntaxError}
    (h : parse source = .error e) : StandsAt [] e.offset source := by
  cases htokens : tokens source with
  | error e' =>
    rw [parse, htokens] at h
    obtain rfl := Except.error.inj h
    obtain ⟨n, hn, hstands⟩ := standsAt_of_tokensFrom_error htokens
    rw [hn, Nat.zero_add]
    exact hstands
  | ok lexemes =>
    rw [parse_eq htokens] at h
    have hlexemes : ∀ l ∈ lexemes, StandsAt [] l.offset source := by
      intro l hl
      exact (standsAt_of_tokens htokens hl).starts
    exact place_of_parseTokens_error (fun n => StandsAt [] n source) (standsAt_byteSize source)
      hlexemes h

/-- The tokens of a text tile it up to blanks: they stand at their offsets, which go up, and each of
them is what its piece of the text is alone. A text that is no expression is wrong at a place that
is neither behind its end nor inside a character. -/
theorem text_tiled_and_errors_placed (source : List Char) :
    (∀ lexemes, tokens source = .ok lexemes →
      Tiling 0 source lexemes ∧ lexemes.Pairwise (fun l l' => l.offset < l'.offset) ∧
        ∀ l ∈ lexemes, StandsAt l.text l.offset source) ∧
      ∀ e, parse source = .error e → e.offset ≤ byteSize source ∧ StandsAt [] e.offset source := by
  constructor
  · intro lexemes h
    have htiling := tiling_of_tokens h
    refine ⟨htiling, htiling.offset_lt, ?_⟩
    intro l hl
    exact standsAt_of_tokens h hl
  · intro e h
    have hstands := standsAt_of_parse_error h
    exact ⟨by simpa using hstands.le, hstands⟩

/-- A name of two bytes, a mark of three, a string with a letter of two bytes, and a number. -/
def mixedText : List Char := "é!=='ü' 12".toList

def mixedLexemes : List Lexeme :=
  [⟨.ident "é", "é".toList, 0⟩, ⟨.mark .notEqual, "!==".toList, 2⟩,
    ⟨.string "ü", "'ü'".toList, 5⟩, ⟨.int 12, "12".toList, 10⟩]

theorem tokens_mixedText : tokens mixedText = .ok mixedLexemes := by
  have hname : readToken 'é' "!=='ü' 12".toList =
      .ok ⟨.ident "é", "é".toList, "!=='ü' 12".toList⟩ := rfl
  have hmark : readToken '!' "=='ü' 12".toList =
      .ok ⟨.mark .notEqual, "!==".toList, "'ü' 12".toList⟩ := rfl
  have hstring : readToken '\'' "ü' 12".toList =
      .ok ⟨.string "ü", "'ü'".toList, " 12".toList⟩ := rfl
  have hnumber : readToken '1' "2".toList = .ok ⟨.int 12, "12".toList, []⟩ := rfl
  calc tokens mixedText
    _ = tokensFrom 2 (mixedLexemes.take 1).reverse "!=='ü' 12".toList :=
      tokensFrom_of_readToken 0 [] (by decide) hname
    _ = tokensFrom 5 (mixedLexemes.take 2).reverse "'ü' 12".toList :=
      tokensFrom_of_readToken 2 _ (by decide) hmark
    _ = tokensFrom 9 (mixedLexemes.take 3).reverse " 12".toList :=
      tokensFrom_of_readToken 5 _ (by decide) hstring
    _ = tokensFrom 10 (mixedLexemes.take 3).reverse "12".toList := by
      conv => left; unfold tokensFrom
      rfl
    _ = tokensFrom 12 mixedLexemes.reverse [] :=
      tokensFrom_of_readToken 10 _ (by decide) hnumber
    _ = .ok mixedLexemes := tokensFrom_nil _ _

/-- A sign of equality behind a letter of two bytes. -/
def assignedText : List Char := "é=1".toList

theorem parse_assignedText : parse assignedText = .error ⟨2, .unexpectedChar '='⟩ := by
  have hname : readToken 'é' "=1".toList = .ok ⟨.ident "é", "é".toList, "=1".toList⟩ := rfl
  have hmark : readToken '=' "1".toList = .error (.unexpectedChar '=') := rfl
  have htokens : tokens assignedText = .error ⟨2, .unexpectedChar '='⟩ := by
    calc tokens assignedText
      _ = tokensFrom 2 [⟨.ident "é", "é".toList, 0⟩] "=1".toList :=
        tokensFrom_of_readToken 0 [] (by decide) hname
      _ = .error ⟨2, .unexpectedChar '='⟩ := tokensFrom_of_error 2 _ (by decide) hmark
  rw [parse, htokens]
  rfl

theorem text_tiled_and_errors_placed_mixedText :
    tokens mixedText = .ok mixedLexemes ∧ Tiling 0 mixedText mixedLexemes ∧
      (∀ l ∈ mixedLexemes, StandsAt l.text l.offset mixedText) ∧
      parse assignedText = .error ⟨2, .unexpectedChar '='⟩ ∧ StandsAt [] 2 assignedText := by
  obtain ⟨htiling, -, hstands⟩ :=
    (text_tiled_and_errors_placed mixedText).1 mixedLexemes tokens_mixedText
  obtain ⟨-, hplace⟩ := (text_tiled_and_errors_placed assignedText).2 _ parse_assignedText
  exact ⟨tokens_mixedText, htiling, hstands, parse_assignedText, hplace⟩

end Stencil.Expr
