import Stencil.Proofs.Constants
import Stencil.Proofs.Evaluation
import Stencil.Proofs.Meaning
import Stencil.Proofs.Undirected

/-!
Expressions in double braces. An expression ends at the first closing braces whatever it means, so
one without closing braces of its own is written as its value, and of another one only the part in
front of them is evaluated; the rest of it is text.
-/
namespace Stencil

open Directive Text

/-! ### Where an expression ends -/

/-- An expression in double braces with a blank on both sides. -/
def Directive.embraced (source : List Char) : List Char :=
  openBraces ++ (' ' :: (source ++ [' '])) ++ closeBraces

namespace Directive

/-- Behind a text without closing braces and a blank, closing braces are the first ones. -/
theorem cut_closeBraces {source : List Char} (h : ¬ closeBraces <:+: source) (rest : List Char) :
    cut closeBraces (source ++ ' ' :: (closeBraces ++ rest)) = some (source ++ [' '], rest) := by
  induction source with
  | nil => exact cut_append_part (a := [' ']) rest (by decide)
  | cons c source ih =>
    have hsource : ¬ closeBraces <:+: source := fun hmem =>
      h (hmem.trans (List.suffix_cons c source).isInfix)
    have hnone : behind? closeBraces (c :: (source ++ ' ' :: (closeBraces ++ rest))) = none := by
      cases hbehind : behind? closeBraces (c :: (source ++ ' ' :: (closeBraces ++ rest))) with
      | none => rfl
      | some after =>
        obtain ⟨rfl, htail⟩ := List.cons.inj (behind?_eq_some_iff.mp hbehind)
        cases source with
        | nil => exact absurd (List.cons.inj htail).1 (by decide)
        | cons d source =>
          obtain ⟨rfl, -⟩ := List.cons.inj htail
          exact absurd ⟨[], source, rfl⟩ h
    rw [List.cons_append, cut_cons, hnone, ih hsource]
    rfl

/-- The expression behind opening braces ends at the first closing ones. -/
theorem nextExpression_embraced {before source after inside rest : List Char}
    (hbrace : '\x7b' ∉ before)
    (h : cut closeBraces (source ++ ' ' :: (closeBraces ++ after)) = some (inside, rest)) :
    nextExpression (before ++ embraced source ++ after) = some (before, ' ' :: inside, rest) := by
  have hopen : cut openBraces (before ++ embraced source ++ after) =
      some (before, [' '] ++ (source ++ ' ' :: (closeBraces ++ after))) := by
    have hsplit : before ++ embraced source ++ after =
        before ++ (openBraces ++ ([' '] ++ (source ++ ' ' :: (closeBraces ++ after)))) := by
      simp [embraced]
    rw [hsplit]
    exact cut_append_part _ hbrace
  have hclose : cut closeBraces ([' '] ++ (source ++ ' ' :: (closeBraces ++ after))) =
      some (' ' :: inside, rest) := by
    rw [closeBraces, cut_append_of_notMem (a := [' ']) _ (by decide), ← closeBraces, h]
    rfl
  simp only [nextExpression, hopen, hclose, Option.bind_eq_bind, Option.bind_some, Option.pure_def]

end Directive

/-! ### What is written -/

namespace Engine

variable {e : Engine} {scope : Scope} {before source after s : List Char}

/-- A text without markup is only interpolated. -/
theorem tryRender_of_notMem (henv : e.environment.Total) (h : '<' ∉ s) :
    e.tryRender scope (String.ofList s) = .ok (String.ofList (fill (e.textIn scope) s)) := by
  have hrun : e.renderWithin (e.config.maxDepth + 1) scope s =
      .ok (fill (e.textIn scope) s) := by
    rw [renderWithin_of_undirected _ (Undirected.of_notMem h), interpolated_eq henv]
  rw [tryRender, String.toList_ofList, hrun]
  rfl

theorem textIn_of_evaluate {v : Value}
    (h : Expr.evaluate e.environment scope (String.ofList s) = .ok v) :
    e.textIn scope (trim s) = v.text.toList := by
  have hvalue : e.valueOf scope (trim s) = .ok v := by
    rw [valueOf, Expr.evaluate_trim, h]
    rfl
  rw [textIn, valueIn_of_ok hvalue]

/-- An expression is written as the value of what stands in front of the first closing braces, and
what stands behind them is rendered by itself. -/
theorem tryRender_embraced (henv : e.environment.Total)
    (hmarkup : '<' ∉ before ++ source ++ after) (hbrace : '\x7b' ∉ before)
    {inside rest : List Char} {v : Value}
    (hcut : cut closeBraces (source ++ ' ' :: (closeBraces ++ after)) = some (inside, rest))
    (hv : Expr.evaluate e.environment scope (String.ofList inside) = .ok v) :
    ∃ q, e.tryRender scope (String.ofList rest) = .ok q ∧
      e.tryRender scope (String.ofList (before ++ embraced source ++ after)) =
        .ok (String.ofList before ++ v.text ++ q) := by
  simp only [List.mem_append, not_or] at hmarkup
  obtain ⟨⟨hbefore, hsource⟩, hafter⟩ := hmarkup
  have hwhole : '<' ∉ before ++ embraced source ++ after := by
    simp [embraced, openBraces, closeBraces, hbefore, hsource, hafter]
  have hrest : '<' ∉ rest := by
    intro hmem
    have hparts : '<' ∈ source ++ ' ' :: (closeBraces ++ after) := by
      rw [cut_eq_some hcut]
      exact List.mem_append_right _ hmem
    simp [closeBraces, hsource, hafter] at hparts
  refine ⟨String.ofList (fill (e.textIn scope) rest), tryRender_of_notMem henv hrest, ?_⟩
  have htrim : trim (' ' :: inside) = trim inside := rfl
  rw [tryRender_of_notMem henv hwhole, fill_of_next _ (nextExpression_embraced hbrace hcut), htrim,
    textIn_of_evaluate hv, String.ofList_append, String.ofList_append, String.ofList_toList,
    String.append_assoc]

/-- An expression without closing braces is written as its value, between the text before it and what
the text behind it is rendered as. An expression with closing braces ends at the first of them, and
what stands behind them belongs to the text behind it. -/
theorem tryRender_expression (e : Engine) (scope : Scope) (henv : e.environment.Total)
    (hmarkup : '<' ∉ before ++ source ++ after) (hbrace : '\x7b' ∉ before) :
    (¬ closeBraces <:+: source →
      ∃ v q, Expr.evaluate e.environment scope (String.ofList source) = .ok v ∧
        e.tryRender scope (String.ofList after) = .ok q ∧
        e.tryRender scope (String.ofList (before ++ embraced source ++ after)) =
          .ok (String.ofList before ++ v.text ++ q)) ∧
    (closeBraces <:+: source →
      ∃ a b v q, source = a ++ closeBraces ++ b ∧
        (∀ x y, source = x ++ closeBraces ++ y → a.length ≤ x.length) ∧
        Expr.evaluate e.environment scope (String.ofList a) = .ok v ∧
        e.tryRender scope (String.ofList (b ++ ' ' :: (closeBraces ++ after))) = .ok q ∧
        e.tryRender scope (String.ofList (before ++ embraced source ++ after)) =
          .ok (String.ofList before ++ v.text ++ q)) := by
  constructor
  · intro h
    obtain ⟨v, hv⟩ := henv.exists_evaluate scope (String.ofList source)
    have hspaced : Expr.evaluate e.environment scope (String.ofList (source ++ [' '])) = .ok v := by
      have htrim : trim (source ++ [' ']) = trim source := trim_spaced source
      rw [← Expr.evaluate_trim, htrim, Expr.evaluate_trim, hv]
    obtain ⟨q, hq, hrender⟩ :=
      tryRender_embraced henv hmarkup hbrace (cut_closeBraces h after) hspaced
    exact ⟨v, q, hv, hq, hrender⟩
  · intro h
    cases hcut : cut closeBraces source with
    | none => exact absurd h (cut_eq_none_iff.mp hcut)
    | some r =>
      obtain ⟨a, b⟩ := r
      obtain ⟨v, hv⟩ := henv.exists_evaluate scope (String.ofList a)
      obtain ⟨q, hq, hrender⟩ := tryRender_embraced henv hmarkup hbrace (cut_append _ hcut) hv
      exact ⟨a, b, v, q, cut_eq_some hcut, fun x y hs => length_le_of_cut hcut hs, hv, hq, hrender⟩

def greetingScope : Scope := .root [("name", .string "Ada")]

theorem tryRender_expression_greetingScope :
    (standard .bare).tryRender greetingScope
        (String.ofList ("Hi ".toList ++ embraced "name".toList ++ "!".toList)) =
      .ok "Hi Ada!" := by
  have hmarkup : '<' ∉ "Hi ".toList ++ "name".toList ++ "!".toList := by decide
  have hbraces : ¬ closeBraces <:+: "name".toList := by decide
  obtain ⟨v, q, hv, hq, hrender⟩ :=
    (tryRender_expression (standard .bare) greetingScope Expr.Environment.bare_total hmarkup
      (by decide)).1 hbraces
  have hname : Expr.evaluate .bare greetingScope (String.ofList "name".toList) =
      .ok (.string "Ada") :=
    Expr.evaluate_of_tryEvaluate (Expr.tryEvaluate_of_get? rfl)
  have hafter : (standard .bare).tryRender greetingScope "!" = .ok "!" := by
    refine (tryRender_of_notMem (s := "!".toList) Expr.Environment.bare_total (by decide)).trans ?_
    rw [fill_of_notMem _ (by decide), String.ofList_toList]
  obtain rfl := Except.ok.inj (hname.symm.trans hv)
  obtain rfl := Except.ok.inj (hafter.symm.trans hq)
  exact hrender

/-- A string with closing braces. -/
def bracesSource : List Char := ['\'', '\x7d', '\x7d', '\'']

/-- A string with closing braces is an expression, but only its opening quote is evaluated. -/
theorem tryRender_expression_ne :
    Expr.parse bracesSource = .ok (.literal (.string "\x7d\x7d")) ∧
    Expr.evaluate .bare Scope.empty (String.ofList bracesSource) = .ok (.string "\x7d\x7d") ∧
    (standard .bare).tryRender Scope.empty "" = .ok "" ∧
    (standard .bare).tryRender Scope.empty (String.ofList (embraced bracesSource)) ≠
      .ok ("" ++ (Value.string "\x7d\x7d").text ++ "") := by
  have hread : Expr.readToken '\'' ['\x7d', '\x7d', '\''] =
      .ok ⟨.string "\x7d\x7d", bracesSource, []⟩ := rfl
  have htokens : Expr.tokens bracesSource = .ok [⟨.string "\x7d\x7d", bracesSource, 0⟩] :=
    (Expr.tokensFrom_of_readToken 0 [] (by decide) hread).trans (Expr.tokensFrom_nil _ _)
  have hparse : Expr.parse bracesSource = .ok (.literal (.string "\x7d\x7d")) := by
    rw [Expr.parse_eq htokens]
    rfl
  have hvalue : Expr.evaluate .bare Scope.empty (String.ofList bracesSource) =
      .ok (.string "\x7d\x7d") := by
    have htrim : trim bracesSource = bracesSource := rfl
    refine Expr.evaluate_of_tryEvaluate ?_
    rw [Expr.tryEvaluate_of_free rfl, htrim, hparse]
    rfl
  have hempty : (standard .bare).tryRender Scope.empty "" = .ok "" := by
    refine (tryRender_of_notMem (s := []) Expr.Environment.bare_total (by decide)).trans ?_
    rw [fill_of_notMem _ (by decide)]
  have hquote : Expr.evaluate .bare Scope.empty (String.ofList ['\'']) = .ok .null := by
    have hfail : Expr.parse (trim ['\'']) = .error ⟨0, .unterminatedString⟩ := by
      have htokens : Expr.tokens ['\''] = .error ⟨0, .unterminatedString⟩ :=
        Expr.tokensFrom_of_error 0 [] (by decide) rfl
      have htrim : trim ['\''] = ['\''] := rfl
      rw [htrim, Expr.parse, htokens]
      rfl
    rw [Expr.evaluate_of_parse_error rfl hfail]
    rfl
  have hcut : cut closeBraces (bracesSource ++ ' ' :: (closeBraces ++ [])) =
      some (['\''], ['\'', ' ', '\x7d', '\x7d']) := by decide
  have hmarkup : '<' ∉ [] ++ bracesSource ++ [] := by decide
  obtain ⟨q, hq, hrender⟩ := tryRender_embraced (e := standard .bare) Expr.Environment.bare_total
    hmarkup List.not_mem_nil hcut hquote
  have hrest : (standard .bare).tryRender Scope.empty
      (String.ofList ['\'', ' ', '\x7d', '\x7d']) =
        .ok (String.ofList ['\'', ' ', '\x7d', '\x7d']) := by
    rw [tryRender_of_notMem Expr.Environment.bare_total (by decide), fill_of_notMem _ (by decide)]
  obtain rfl := Except.ok.inj (hrest.symm.trans hq)
  rw [List.nil_append, List.append_nil] at hrender
  refine ⟨hparse, hvalue, hempty, ?_⟩
  rw [hrender]
  intro heq
  exact absurd (Except.ok.inj heq) (by decide)

end Engine

end Stencil
