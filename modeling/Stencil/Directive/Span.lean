import Stencil.Text.Search
import Stencil.Text.Blank

/-!
Text with expressions in double braces. An expression reaches from the first two opening braces to
the next two closing ones; braces that are not closed are plain text.
-/
namespace Stencil.Directive

open Text

inductive Span where
  | plain (s : List Char)
  | expression (source : List Char)
  deriving DecidableEq, Repr

def openBraces : List Char := ['\x7b', '\x7b']

def closeBraces : List Char := ['\x7d', '\x7d']

def Span.source : Span → List Char
  | .plain s => s
  | .expression source => openBraces ++ source ++ closeBraces

/-- The next expression in a text: what is before it, its source, and what follows it. -/
def nextExpression (s : List Char) : Option (List Char × List Char × List Char) := do
  let (before, rest) ← cut openBraces s
  let (source, rest) ← cut closeBraces rest
  return (before, source, rest)

theorem nextExpression_eq_some {s before source rest : List Char}
    (h : nextExpression s = some (before, source, rest)) :
    s = before ++ (openBraces ++ source ++ closeBraces) ++ rest := by
  simp only [nextExpression, Option.bind_eq_bind, Option.pure_def, Option.bind_eq_some_iff,
    Option.some.injEq, Prod.mk.injEq, Prod.exists] at h
  obtain ⟨b, r, h1, c, r', h2, rfl, rfl, rfl⟩ := h
  rw [cut_eq_some h1, cut_eq_some h2]
  simp

theorem length_lt_of_nextExpression {s before source rest : List Char}
    (h : nextExpression s = some (before, source, rest)) : rest.length < s.length := by
  rw [nextExpression_eq_some h]
  simp only [openBraces, List.length_append, List.length_cons]
  omega

/-- The division behind `spans`, with the spans so far, last first. -/
def spansFrom (done : List Span) (s : List Char) : List Span :=
  match _h : nextExpression s with
  | some (before, source, rest) => spansFrom (.expression source :: .plain before :: done) rest
  | none => (.plain s :: done).reverse
termination_by s.length
decreasing_by exact length_lt_of_nextExpression (by assumption)

/-- The spans of a text, in order. -/
def spans (s : List Char) : List Span := spansFrom [] s

theorem sources_spansFrom (done : List Span) (s : List Char) :
    (spansFrom done s).flatMap Span.source = done.reverse.flatMap Span.source ++ s := by
  fun_induction spansFrom done s with
  | case1 done s before source rest h ih =>
    rw [ih, nextExpression_eq_some h]
    simp [Span.source]
  | case2 done s h => simp [Span.source]

/-- The spans of a text make it up. -/
theorem sources_spans (s : List Char) : (spans s).flatMap Span.source = s := by
  rw [spans, sources_spansFrom]
  rfl

/-- Puts a text in the place of every expression, from left to right. -/
def interpolate {ε : Type} (value : List Char → Except ε (List Char)) (s : List Char) :
    Except ε (List Char) := do
  let texts ← (spans s).mapM fun span =>
    match span with
    | .plain s => .ok s
    | .expression source => value (trim source)
  return texts.flatten

end Stencil.Directive
