import Mathlib.Data.Set.Finite.Basic
import Mathlib.Data.Set.Finite.Lattice
import Mathlib.Logic.Relation
import Stencil.Proofs.Settling
import Stencil.Proofs.StartedRenderings

/-!
The limits of a rendering. Neither texts nor the nesting in them get smaller on the way: a value can
put in an element again that was just written out. What ends a rendering are the two limits of the
settings. Depth is counted from the outside here; a rendering beyond the limit does nothing, so that
the renderings that one brings about form a finite tree, and each of them makes a bounded number of
passes. What is listed as the passes of a rendering and as the renderings that they start is all
that its output is made of.
-/
namespace Stencil

open Directive Markup Render

/-- A text that is rendered in a scope, inside of `depth` directive elements. -/
structure Rendering where
  depth : Nat
  scope : Scope
  text : List Char

namespace Engine

variable {e : Engine} {pass other : List Char → RenderResult (List Char)} {left depth : Nat}
  {s : List Char} {scope : Scope} {f : Fault RenderError}

/-! ### Depth from the outside -/

/-- Renders inside of `depth` directive elements. -/
def renderAt (e : Engine) (depth : Nat) : Renderer :=
  e.renderWithin (e.config.maxDepth + 1 - depth)

/-- Beyond the limit nothing is rendered. -/
theorem renderAt_of_lt (h : e.config.maxDepth < depth) :
    e.renderAt depth scope s = .error (.error (.depthExceeded e.config.maxDepth)) := by
  have hlevels : e.config.maxDepth + 1 - depth = 0 := by omega
  rw [renderAt, hlevels]
  rfl

/-- Up to the limit a text is settled with inner texts rendered one deeper, and then filled in. -/
theorem renderAt_of_le (h : depth ≤ e.config.maxDepth) :
    e.renderAt depth scope s =
      (e.settle (e.pass (e.renderAt (depth + 1)) scope) (max e.config.maxPasses 1) s).bind
        (e.interpolated scope) := by
  have hlevels : e.config.maxDepth + 1 - depth = e.config.maxDepth + 1 - (depth + 1) + 1 := by
    omega
  rw [renderAt, hlevels, renderWithin_succ]
  rfl

theorem tryRender_eq_renderAt (template : String) :
    e.tryRender scope template =
      (e.renderAt 0 scope template.toList).map String.ofList := by
  rw [tryRender, renderAt]
  cases e.renderWithin (e.config.maxDepth + 1) scope template.toList <;> rfl

/-! ### Passes -/

/-- The texts that settling passes over, in order. -/
def passedOver (pass : List Char → RenderResult (List Char)) : Nat → List Char → List (List Char)
  | 0, s => [s]
  | left + 1, s =>
    match pass s with
    | .ok next => if next == s then [s] else s :: passedOver pass left next
    | .error _ => [s]

theorem mem_passedOver_self : s ∈ passedOver pass left s := by
  cases left with
  | zero => exact List.mem_singleton_self s
  | succ left =>
    unfold passedOver
    cases pass s with
    | error f => exact List.mem_singleton_self s
    | ok next =>
      by_cases hnext : next = s
      · simp [hnext]
      · simp [hnext]

theorem passedOver_of_changed {t : List Char} (h : pass s = .ok t) (hne : t ≠ s) :
    passedOver pass (left + 1) s = s :: passedOver pass left t := by
  rw [passedOver, h]
  simp [hne]

/-- Every pass but the last uses up one of those that may change the text. -/
theorem length_passedOver_le (pass : List Char → RenderResult (List Char)) (left : Nat)
    (s : List Char) : (passedOver pass left s).length ≤ left + 1 := by
  induction left generalizing s with
  | zero => exact Nat.le_refl _
  | succ left ih =>
    unfold passedOver
    cases pass s with
    | error f => simp
    | ok next =>
      have hnext := ih next
      dsimp only
      split
      · simp
      · simp only [List.length_cons]
        omega

/-- Nothing but the results of those passes matters. -/
theorem settle_eq_of_passedOver (h : ∀ t ∈ passedOver pass left s, other t = pass t) :
    e.settle other left s = e.settle pass left s := by
  induction left generalizing s with
  | zero =>
    have hs := h s mem_passedOver_self
    unfold settle
    rw [hs]
  | succ left ih =>
    have hs := h s mem_passedOver_self
    cases hpass : pass s with
    | error f => rw [e.settle_of_error _ hpass, e.settle_of_error _ (hs.trans hpass)]
    | ok next =>
      have hother := hs.trans hpass
      by_cases hnext : next = s
      · subst hnext
        rw [e.settle_of_unchanged _ hpass, e.settle_of_unchanged _ hother]
      · rw [passedOver_of_changed hpass hnext] at h
        rw [e.settle_of_changed left hpass hnext, e.settle_of_changed left hother hnext]
        exact ih fun t ht => h t (List.mem_cons_of_mem _ ht)

/-- Settling fails as one of its passes does, or because there were too many. -/
theorem settle_eq_error (h : e.settle pass left s = .error f) :
    (∃ t ∈ passedOver pass left s, pass t = .error f) ∨
      f = .error (.noFixedPoint (max e.config.maxPasses 1)) := by
  induction left generalizing s with
  | zero =>
    cases hpass : pass s with
    | error g =>
      rw [e.settle_of_error 0 hpass] at h
      exact Or.inl ⟨s, mem_passedOver_self, hpass.trans h⟩
    | ok next =>
      by_cases hnext : next = s
      · subst hnext
        simp [e.settle_of_unchanged 0 hpass] at h
      · unfold settle at h
        simp only [hpass, bind, Except.bind, beq_iff_eq, hnext, if_false] at h
        exact Or.inr (Except.error.inj h).symm
  | succ left ih =>
    cases hpass : pass s with
    | error g =>
      rw [e.settle_of_error _ hpass] at h
      exact Or.inl ⟨s, mem_passedOver_self, hpass.trans h⟩
    | ok next =>
      by_cases hnext : next = s
      · subst hnext
        simp [e.settle_of_unchanged _ hpass] at h
      · rw [e.settle_of_changed left hpass hnext] at h
        rw [passedOver_of_changed hpass hnext]
        rcases ih h with ⟨t, ht, hfails⟩ | hlimit
        · exact Or.inl ⟨t, List.mem_cons_of_mem _ ht, hfails⟩
        · exact Or.inr hlimit

/-! ### The renderings that one brings about -/

/-- The output of a rendering. -/
def outcome (e : Engine) (r : Rendering) : RenderResult (List Char) :=
  e.renderAt r.depth r.scope r.text

/-- The texts that a rendering passes over. Beyond the limit it makes no pass. -/
def passTexts (e : Engine) (r : Rendering) : List (List Char) :=
  if r.depth ≤ e.config.maxDepth then
    passedOver (e.pass (e.renderAt (r.depth + 1)) r.scope) (max e.config.maxPasses 1) r.text
  else []

/-- One of the passes of a rendering starts the other, one deeper. -/
def Calls (e : Engine) (r next : Rendering) : Prop :=
  next.depth = r.depth + 1 ∧
    ∃ t ∈ e.passTexts r,
      Starts (fun nested => e.pass nested r.scope t) (e.renderAt (r.depth + 1)) next.scope next.text

/-- A rendering brings about itself and what those that it brings about start. -/
def BringsAbout (e : Engine) : Rendering → Rendering → Prop := Relation.ReflTransGen e.Calls

variable {r next : Rendering}

theorem passTexts_of_lt (h : e.config.maxDepth < r.depth) : e.passTexts r = [] :=
  if_neg (Nat.not_le_of_lt h)

theorem length_passTexts_le (r : Rendering) :
    (e.passTexts r).length ≤ max e.config.maxPasses 1 + 1 := by
  unfold passTexts
  split
  · exact length_passedOver_le ..
  · exact Nat.zero_le _

theorem not_calls_of_lt (h : e.config.maxDepth < r.depth) : ¬e.Calls r next := by
  rintro ⟨-, t, ht, -⟩
  simp [passTexts_of_lt h] at ht

/-- Only a rendering within the limit starts others. -/
theorem depth_le_of_bringsAbout (h : e.BringsAbout r next) (hr : r.depth ≤ e.config.maxDepth + 1) :
    next.depth ≤ e.config.maxDepth + 1 := by
  induction h with
  | refl => exact hr
  | tail _ hcalls _ =>
    by_contra hdeep
    exact not_calls_of_lt (by have hdepth := hcalls.1; omega) hcalls

variable (henv : e.environment.Total)

include henv

theorem finite_calls (r : Rendering) : {next | e.Calls r next}.Finite := by
  have hstarted : (⋃ t ∈ {t | t ∈ e.passTexts r}, {p : Scope × List Char |
      Starts (fun nested => e.pass nested r.scope t) (e.renderAt (r.depth + 1)) p.1 p.2}).Finite :=
    (List.finite_toSet _).biUnion fun t _ => (relays_pass henv r.scope t).finite_starts _
  refine (hstarted.image fun p => ⟨r.depth + 1, p.1, p.2⟩).subset ?_
  rintro ⟨depth, scope, s⟩ ⟨hdepth, t, ht, hstarts⟩
  refine ⟨(scope, s), Set.mem_biUnion ht hstarts, ?_⟩
  simpa using hdepth.symm

/-- The tree of renderings is finite: it branches finitely and is no deeper than the limit. -/
theorem finite_bringsAbout (r : Rendering) : {next | e.BringsAbout r next}.Finite := by
  obtain ⟨n, hn⟩ : ∃ n, e.config.maxDepth + 1 ≤ r.depth + n := ⟨e.config.maxDepth + 1, by omega⟩
  induction n generalizing r with
  | zero =>
    refine (Set.finite_singleton r).subset fun next hnext => ?_
    rcases Relation.ReflTransGen.cases_head hnext with rfl | ⟨first, hfirst, -⟩
    · rfl
    · exact absurd hfirst (not_calls_of_lt (by omega))
  | succ n ih =>
    have hlater : (⋃ first ∈ {first | e.Calls r first}, {next | e.BringsAbout first next}).Finite :=
      (finite_calls henv r).biUnion fun first hfirst => ih first (by have := hfirst.1; omega)
    refine ((Set.finite_singleton r).union hlater).subset fun next hnext => ?_
    rcases Relation.ReflTransGen.cases_head hnext with rfl | ⟨first, hfirst, hrest⟩
    · exact Or.inl rfl
    · exact Or.inr (Set.mem_biUnion hfirst hrest)

/-- The output of a rendering is made of its passes over the texts listed and of the renderings that
these start. Nothing else that a pass or a renderer could do plays a part. -/
theorem outcome_eq {nested : Renderer} (hr : r.depth ≤ e.config.maxDepth)
    (hnested : ∀ next, e.Calls r next → nested next.scope next.text = e.outcome next)
    (hpass : ∀ t ∈ e.passTexts r, pass t = e.pass nested r.scope t) :
    e.outcome r =
      (e.settle pass (max e.config.maxPasses 1) r.text).bind (e.interpolated r.scope) := by
  have htexts : e.passTexts r =
      passedOver (e.pass (e.renderAt (r.depth + 1)) r.scope) (max e.config.maxPasses 1) r.text :=
    if_pos hr
  have hsettle : e.settle pass (max e.config.maxPasses 1) r.text =
      e.settle (e.pass (e.renderAt (r.depth + 1)) r.scope) (max e.config.maxPasses 1) r.text := by
    refine settle_eq_of_passedOver fun t ht => ?_
    rw [← htexts] at ht
    rw [hpass t ht]
    exact (relays_pass henv r.scope t).eq_of_starts fun scope s hstarts =>
      hnested ⟨r.depth + 1, scope, s⟩ ⟨rfl, t, ht, hstarts⟩
  rw [hsettle]
  exact renderAt_of_le hr

/-- A rendering fails at one of the two limits. -/
theorem outcome_eq_error (h : e.outcome r = .error f) :
    f = .error (.depthExceeded e.config.maxDepth) ∨
      f = .error (.noFixedPoint (max e.config.maxPasses 1)) := by
  obtain ⟨n, hn⟩ : ∃ n, e.config.maxDepth + 1 ≤ r.depth + n := ⟨e.config.maxDepth + 1, by omega⟩
  induction n generalizing r with
  | zero =>
    rw [outcome, renderAt_of_lt (by omega)] at h
    exact Or.inl (Except.error.inj h).symm
  | succ n ih =>
    by_cases hdepth : r.depth ≤ e.config.maxDepth
    · rw [outcome, renderAt_of_le hdepth] at h
      cases hsettle : e.settle (e.pass (e.renderAt (r.depth + 1)) r.scope)
          (max e.config.maxPasses 1) r.text with
      | ok settled =>
        simp only [hsettle, Except.bind, interpolated_eq henv] at h
        nomatch h
      | error g =>
        simp only [hsettle, Except.bind] at h
        obtain rfl := Except.error.inj h
        rcases settle_eq_error hsettle with ⟨t, -, hpass⟩ | hpasses
        · obtain ⟨scope, s, -, hnested⟩ :=
            (relays_pass henv r.scope t).exists_starts_of_error hpass
          exact ih (r := ⟨r.depth + 1, scope, s⟩) hnested (by simp only; omega)
        · exact Or.inr hpasses
    · rw [outcome, renderAt_of_lt (by omega)] at h
      exact Or.inl (Except.error.inj h).symm

/-- A rendering that keeps to the limits. Its depth and the number of its passes are bounded; its
output is made of these passes and of the renderings that they start one deeper, whatever else a
pass or a renderer would do; and one level beyond the limit it makes no pass and fails. -/
structure KeepsLimits (e : Engine) (r : Rendering) : Prop where
  depth_le : r.depth ≤ e.config.maxDepth + 1
  passes_le : (e.passTexts r).length ≤ max e.config.maxPasses 1 + 1
  outcome_eq : r.depth ≤ e.config.maxDepth →
    ∀ (nested : Renderer) (pass : List Char → RenderResult (List Char)),
      (∀ next, e.Calls r next → nested next.scope next.text = e.outcome next) →
      (∀ t ∈ e.passTexts r, pass t = e.pass nested r.scope t) →
        e.outcome r =
          (e.settle pass (max e.config.maxPasses 1) r.text).bind (e.interpolated r.scope)
  beyond : r.depth = e.config.maxDepth + 1 →
    e.passTexts r = [] ∧ (∀ next, ¬e.Calls r next) ∧
      e.outcome r = .error (.error (.depthExceeded e.config.maxDepth))

theorem keepsLimits (hr : r.depth ≤ e.config.maxDepth + 1) : e.KeepsLimits r where
  depth_le := hr
  passes_le := length_passTexts_le r
  outcome_eq hdepth _ _ hnested hpass := outcome_eq henv hdepth hnested hpass
  beyond hdepth := by
    have hlt : e.config.maxDepth < r.depth := by omega
    exact ⟨passTexts_of_lt hlt, fun _ => not_calls_of_lt hlt, renderAt_of_lt hlt⟩

/-- Every rendering ends within its limits. It is the rendering of its template outside of all
elements, which brings about finitely many others; all of them keep to the limits; and the output is
a text or tells which limit was exceeded. -/
theorem tryRender_within_limits (scope : Scope) (template : String) :
    e.tryRender scope template =
      (e.outcome ⟨0, scope, template.toList⟩).map String.ofList ∧
    {r | e.BringsAbout ⟨0, scope, template.toList⟩ r}.Finite ∧
    (∀ r, e.BringsAbout ⟨0, scope, template.toList⟩ r → e.KeepsLimits r) ∧
    ((∃ out, e.tryRender scope template = .ok out) ∨
      e.tryRender scope template = .error (.error (.depthExceeded e.config.maxDepth)) ∨
      e.tryRender scope template =
        .error (.error (.noFixedPoint (max e.config.maxPasses 1)))) := by
  refine ⟨tryRender_eq_renderAt template, finite_bringsAbout henv _, fun r hr => ?_, ?_⟩
  · exact keepsLimits henv (depth_le_of_bringsAbout hr (Nat.zero_le _))
  · rw [tryRender_eq_renderAt]
    cases houtcome : e.renderAt 0 scope template.toList with
    | ok out => exact Or.inl ⟨String.ofList out, rfl⟩
    | error f =>
      have hlimit := outcome_eq_error henv (r := ⟨0, scope, template.toList⟩) houtcome
      rcases hlimit with rfl | rfl
      · exact Or.inr (Or.inl rfl)
      · exact Or.inr (Or.inr rfl)

omit henv

/-- A loop whose only item is the text of the loop. -/
def growingText : String := "<b for=\"x in [grow()]\">\x7b\x7b x \x7d\x7d</b>"

/-- An engine that gives a text three passes to settle, and whose functions all give that text. -/
def growingEngine : Engine :=
  ⟨⟨Registry.empty, fun _ _ => .ok (.string growingText)⟩, Config.default.withMaxPasses 3⟩

def growingScope : Scope := Scope.root [("grow", .function 0)]

/-- The text grows on every one of the four passes that it may have. -/
theorem tryRender_within_limits_growingText :
    growingEngine.environment.Total ∧
      growingEngine.tryRender growingScope growingText =
        (growingEngine.outcome ⟨0, growingScope, growingText.toList⟩).map String.ofList ∧
      (∀ r, growingEngine.BringsAbout ⟨0, growingScope, growingText.toList⟩ r →
        growingEngine.KeepsLimits r) ∧
      (growingEngine.passTexts ⟨0, growingScope, growingText.toList⟩).length = 4 ∧
      growingEngine.tryRender growingScope growingText = .error (.error (.noFixedPoint 3)) := by
  have htotal : growingEngine.environment.Total := by
    refine ⟨fun name f hf => ?_, fun handle args text h => ?_⟩
    · simp [growingEngine, Registry.empty, Registry.find?, Record.get?] at hf
    · simp [growingEngine] at h
  have hcount : (growingEngine.passTexts ⟨0, growingScope, growingText.toList⟩).length = 4 := by
    decide +kernel
  have hpasses : growingEngine.tryRender growingScope growingText =
      .error (.error (.noFixedPoint 3)) := by decide +kernel
  obtain ⟨hrun, -, hlimits, -⟩ := tryRender_within_limits htotal growingScope growingText
  exact ⟨htotal, hrun, hlimits, hcount, hpasses⟩

end Engine

end Stencil
