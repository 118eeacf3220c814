import Stencil.Proofs.SingleElement

/-!
Expressions without names. Such a text has the same value in every scope in which it is not bound as
a whole: it is read token by token, and the tree is evaluated without looking anything up.
-/
namespace Stencil

open Text

namespace Expr

/-- One token is read and the rest of the text goes on by itself. -/
theorem tokensFrom_of_readToken {c : Char} {rest : List Char} {m : Munch} (offset : Nat)
    (found : List Lexeme) (hc : isBlank c = false) (h : readToken c rest = .ok m) :
    tokensFrom offset found (c :: rest) =
      tokensFrom (offset + byteSize m.text) (⟨m.token, m.text, offset⟩ :: found) m.rest := by
  conv => left; unfold tokensFrom
  rw [hc]
  simp only [Bool.false_eq_true, ↓reduceIte]
  split
  · next h' => simp [h] at h'
  · next h' =>
    rw [h] at h'
    obtain rfl := Except.ok.inj h'
    rfl

/-- What starts no token is an error at its place. -/
theorem tokensFrom_of_error {c : Char} {rest : List Char} {fault : SyntaxFault} (offset : Nat)
    (found : List Lexeme) (hc : isBlank c = false) (h : readToken c rest = .error fault) :
    tokensFrom offset found (c :: rest) = .error ⟨offset, fault⟩ := by
  conv => left; unfold tokensFrom
  rw [hc]
  simp only [Bool.false_eq_true, ↓reduceIte]
  split
  · next h' =>
    rw [h] at h'
    obtain rfl := Except.error.inj h'
    rfl
  · next h' => simp [h] at h'

theorem tokensFrom_nil (offset : Nat) (found : List Lexeme) :
    tokensFrom offset found [] = .ok found.reverse := by
  conv => left; unfold tokensFrom

theorem parse_eq {source : List Char} {lexemes : List Lexeme} (h : tokens source = .ok lexemes) :
    parse source = parseTokens lexemes (byteSize source) := by
  rw [parse, h]
  rfl

theorem parse_true : parse "true".toList = .ok (.literal (.bool true)) := by
  have hword : readToken 't' "rue".toList = .ok ⟨.ident "true", "true".toList, []⟩ := rfl
  have htokens : tokens "true".toList = .ok [⟨.ident "true", "true".toList, 0⟩] :=
    (tokensFrom_of_readToken 0 [] (by decide) hword).trans (tokensFrom_nil _ _)
  rw [parse_eq htokens]
  rfl

theorem parse_singleton : parse "[1]".toList = .ok (.array [.literal (.number (.int 1))]) := by
  have hopen : readToken '[' "1]".toList = .ok ⟨.mark .leftBracket, "[".toList, "1]".toList⟩ := rfl
  have hone : readToken '1' "]".toList = .ok ⟨.int 1, "1".toList, "]".toList⟩ := rfl
  have hclose : readToken ']' [] = .ok ⟨.mark .rightBracket, "]".toList, []⟩ := rfl
  have htokens : tokens "[1]".toList =
      .ok [⟨.mark .leftBracket, "[".toList, 0⟩, ⟨.int 1, "1".toList, 1⟩,
        ⟨.mark .rightBracket, "]".toList, 2⟩] := by
    calc tokens "[1]".toList
      _ = tokensFrom 1 [⟨.mark .leftBracket, "[".toList, 0⟩] "1]".toList :=
        tokensFrom_of_readToken 0 [] (by decide) hopen
      _ = tokensFrom 2 [⟨.int 1, "1".toList, 1⟩, ⟨.mark .leftBracket, "[".toList, 0⟩]
          "]".toList := tokensFrom_of_readToken 1 _ (by decide) hone
      _ = tokensFrom 3 [⟨.mark .rightBracket, "]".toList, 2⟩, ⟨.int 1, "1".toList, 1⟩,
          ⟨.mark .leftBracket, "[".toList, 0⟩] [] :=
        tokensFrom_of_readToken 2 _ (by decide) hclose
      _ = _ := tokensFrom_nil _ _
  rw [parse_eq htokens]
  rfl

end Expr

namespace Engine

variable {e : Engine} {scope : Scope}

/-- A text that is no bound name means what its tree means. -/
theorem valueOf_of_parse {source : List Char} {tree : Expr.Tree} {v : Value}
    (hfree : scope.get? (String.ofList (trim source)) = none)
    (hparse : Expr.parse (trim source) = .ok tree)
    (heval : Expr.eval e.environment scope tree = .ok v) : e.valueOf scope source = .ok v := by
  have htry : Expr.tryEvaluate e.environment scope (String.ofList source) = .ok v := by
    rw [Expr.tryEvaluate_of_free hfree, hparse]
    exact heval
  rw [valueOf, Expr.evaluate_of_tryEvaluate htry]
  rfl

theorem valueOf_true (h : scope.get? "true" = none) :
    e.valueOf scope "true".toList = .ok (.bool true) :=
  valueOf_of_parse h Expr.parse_true rfl

theorem holds_true (h : scope.get? "true" = none) : e.holds scope "true".toList = .ok true := by
  rw [holds, valueOf_true h]
  rfl

theorem valueOf_singleton (h : scope.get? "[1]" = none) :
    e.valueOf scope "[1]".toList = .ok (.seq [.number (.int 1)]) :=
  valueOf_of_parse h Expr.parse_singleton rfl

end Engine

end Stencil
