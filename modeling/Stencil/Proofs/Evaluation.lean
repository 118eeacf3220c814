import Stencil.Expr.Eval
import Stencil.Proofs.Trimming

/-!
The value of a text, case by case: a text that is a bound name means what is bound, another one is
read as an expression, and what is none is looked up as a path. Blanks at its ends never matter.
-/
namespace Stencil.Expr

open Text

variable {env : Environment} {scope : Scope} {s : List Char} {v : Value}

theorem tryEvaluate_of_get? (h : scope.get? (String.ofList (trim s)) = some v) :
    tryEvaluate env scope (String.ofList s) = .ok v := by
  simp only [tryEvaluate, trimmed_ofList, h]

theorem tryEvaluate_of_free (h : scope.get? (String.ofList (trim s)) = none) :
    tryEvaluate env scope (String.ofList s) =
      match parse (trim s) with
      | .ok tree => eval env scope tree
      | .error e => .error (.error (.malformed e)) := by
  cases hparse : parse (trim s) <;>
    simp only [tryEvaluate, trimmed_ofList, h, String.toList_ofList, hparse]

theorem evaluate_of_tryEvaluate (h : tryEvaluate env scope (String.ofList s) = .ok v) :
    evaluate env scope (String.ofList s) = .ok v := by
  rw [evaluate, h]

theorem evaluate_of_parse_error {e : SyntaxError}
    (hfree : scope.get? (String.ofList (trim s)) = none) (hparse : parse (trim s) = .error e) :
    evaluate env scope (String.ofList s) = .ok (scope.resolve (String.ofList s)) := by
  rw [evaluate, tryEvaluate_of_free hfree, hparse]

theorem evaluate_trim (env : Environment) (scope : Scope) (s : List Char) :
    evaluate env scope (String.ofList (trim s)) = evaluate env scope (String.ofList s) := by
  have htrimmed : trimmed (String.ofList (trim s)) = trimmed (String.ofList s) := by
    rw [trimmed_ofList, trimmed_ofList, trim_trim]
  simp only [evaluate, tryEvaluate, Scope.resolve, htrimmed]

end Stencil.Expr
