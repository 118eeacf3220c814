import Mathlib.Data.Set.Finite.Basic
import Mathlib.Data.Set.Finite.Lattice
import Stencil.Proofs.Meaning
import Stencil.Proofs.Replacing

/-!
Which renderings a piece of work starts. Work is handed a renderer for inner texts, and that it
renders an inner text shows in that it fails however that rendering fails. Where nothing that can be
called aborts, a pass uses its renderer in no other way: it starts finitely many renderings, one
after the other, and it fails only as one of them does.
-/
namespace Stencil

open Directive Markup Render

/-- A renderer that fails at one text in one scope. -/
noncomputable def Renderer.failingAt (nested : Renderer) (scope : Scope) (s : List Char)
    (f : Fault RenderError) : Renderer := by
  classical
  exact fun scope' s' => if scope' = scope ∧ s' = s then .error f else nested scope' s'

/-- The work renders a text in a scope: however that rendering fails, so does the work. -/
def Starts {α : Type} (work : Renderer → RenderResult α) (nested : Renderer) (scope : Scope)
    (s : List Char) : Prop :=
  ∀ f, work (nested.failingAt scope s f) = .error f

/-- Work that uses its renderer only to start renderings, one after the other, and that fails only
as one of them does. -/
inductive Relays {α : Type} : (Renderer → RenderResult α) → Prop
  | done (a : α) : Relays fun _ => .ok a
  | start (scope : Scope) (s : List Char) (next : List Char → Renderer → RenderResult α)
      (hnext : ∀ text, Relays (next text)) :
      Relays fun nested => (nested scope s).bind fun text => next text nested

namespace Renderer

variable {nested : Renderer} {scope scope' : Scope} {s s' : List Char} {f : Fault RenderError}

theorem failingAt_self : nested.failingAt scope s f scope s = .error f := by
  simp [failingAt]

theorem failingAt_of_ne (h : ¬(scope' = scope ∧ s' = s)) :
    nested.failingAt scope s f scope' s' = nested scope' s' := by
  simp [failingAt, h]

end Renderer

/-! ### What is started -/

section Work

variable {α β : Type} {nested other : Renderer} {scope scope' : Scope} {s s' : List Char}

theorem not_starts_done (a : α) (nested : Renderer) (scope : Scope) (s : List Char) :
    ¬Starts (fun _ => .ok a) nested scope s := by
  intro h
  have herror := h (.abort none)
  simp at herror

/-- Work that begins with a rendering starts that one, and what is started once it is done. -/
theorem starts_start_iff {next : List Char → Renderer → RenderResult α} :
    Starts (fun nested => (nested scope s).bind fun text => next text nested) nested scope' s' ↔
      (scope = scope' ∧ s = s') ∨
        ∃ text, nested scope s = .ok text ∧ Starts (next text) nested scope' s' := by
  by_cases heq : scope = scope' ∧ s = s'
  · obtain ⟨rfl, rfl⟩ := heq
    refine iff_of_true (fun f => ?_) (Or.inl ⟨rfl, rfl⟩)
    simp only [Renderer.failingAt_self, Except.bind]
  · unfold Starts
    simp only [Renderer.failingAt_of_ne heq, heq, false_or]
    cases nested scope s with
    | error g =>
      refine iff_of_false (fun h => ?_) (by simp)
      -- work that has failed already fails in one way only
      have hone : g = .abort none := Except.error.inj (h (.abort none))
      have htwo : g = .abort (some "") := Except.error.inj (h (.abort (some "")))
      simp [hone] at htwo
    | ok text => simp [Except.bind]

namespace Relays

variable {work : Renderer → RenderResult α}

theorem bind {next : α → Renderer → RenderResult β} (h : Relays work)
    (hnext : ∀ a, Relays (next a)) :
    Relays fun nested => (work nested).bind fun a => next a nested := by
  induction h with
  | done a => exact hnext a
  | start scope s rest _ ih =>
    have hassoc : (fun nested : Renderer =>
          ((nested scope s).bind fun text => rest text nested).bind fun a => next a nested) =
        fun nested => (nested scope s).bind fun text =>
          (rest text nested).bind fun a => next a nested := by
      funext nested
      cases nested scope s <;> rfl
    rw [hassoc]
    exact .start scope s _ ih

theorem render (scope : Scope) (s : List Char) : Relays fun nested => nested scope s := by
  have hwork : (fun nested : Renderer => nested scope s) =
      fun nested => (nested scope s).bind fun text => .ok text := by
    funext nested
    cases nested scope s <;> rfl
  rw [hwork]
  exact .start scope s _ fun text => .done text

theorem mapM {work : β → Renderer → RenderResult α} (l : List β)
    (h : ∀ b ∈ l, Relays (work b)) : Relays fun nested => l.mapM fun b => work b nested := by
  induction l with
  | nil => exact .done []
  | cons b l ih =>
    simp only [List.mapM_cons]
    refine (h b (List.mem_cons_self ..)).bind fun a => ?_
    exact (ih fun c hc => h c (List.mem_cons_of_mem _ hc)).bind fun texts => .done _

/-- Only finitely many renderings are started. -/
theorem finite_starts (h : Relays work) (nested : Renderer) :
    {p : Scope × List Char | Starts work nested p.1 p.2}.Finite := by
  induction h with
  | done a =>
    have hnone : {p : Scope × List Char | Starts (fun _ => .ok a) nested p.1 p.2} = ∅ :=
      Set.eq_empty_of_forall_notMem fun p => not_starts_done a nested p.1 p.2
    rw [hnone]
    exact Set.finite_empty
  | start scope s next _ ih =>
    have hsubset : {p : Scope × List Char | Starts (fun nested =>
          (nested scope s).bind fun text => next text nested) nested p.1 p.2} ⊆
        {(scope, s)} ∪ {p | ∃ text, nested scope s = .ok text ∧
          Starts (next text) nested p.1 p.2} := by
      intro p hp
      rcases starts_start_iff.mp hp with ⟨hscope, htext⟩ | hlater
      · exact Or.inl (Prod.ext hscope.symm htext.symm)
      · exact Or.inr hlater
    refine ((Set.finite_singleton _).union ?_).subset hsubset
    cases nested scope s with
    | error f => simp
    | ok text => simpa using ih text

/-- Work that fails fails as a rendering does that it starts. -/
theorem exists_starts_of_error (h : Relays work) {f : Fault RenderError}
    (herror : work nested = .error f) :
    ∃ scope s, Starts work nested scope s ∧ nested scope s = .error f := by
  induction h with
  | done a => simp at herror
  | start scope s next _ ih =>
    cases hs : nested scope s with
    | error g =>
      simp only [hs, Except.bind] at herror
      obtain rfl := Except.error.inj herror
      exact ⟨scope, s, starts_start_iff.mpr (Or.inl ⟨rfl, rfl⟩), hs⟩
    | ok text =>
      simp only [hs, Except.bind] at herror
      obtain ⟨scope', s', hstarts, hfails⟩ := ih text herror
      exact ⟨scope', s', starts_start_iff.mpr (Or.inr ⟨text, hs, hstarts⟩), hfails⟩

/-- Nothing but the results of the renderings that are started matters to the work. -/
theorem eq_of_starts (h : Relays work)
    (hagree : ∀ scope s, Starts work nested scope s → other scope s = nested scope s) :
    work other = work nested := by
  induction h with
  | done a => rfl
  | start scope s next _ ih =>
    have hfirst := hagree scope s (starts_start_iff.mpr (Or.inl ⟨rfl, rfl⟩))
    cases hs : nested scope s with
    | error g => simp only [hfirst, hs, Except.bind]
    | ok text =>
      have hlater := ih text fun scope' s' hstarts =>
        hagree scope' s' (starts_start_iff.mpr (Or.inr ⟨text, hs, hstarts⟩))
      simp only [hfirst, hs, Except.bind, hlater]

end Relays

end Work

/-! ### Passes -/

theorem exists_concatM {α ε : Type} {f : α → Except ε (List Char)} {l : List α}
    (h : ∀ a ∈ l, ∃ text, f a = .ok text) : ∃ out, concatM f l = .ok out := by
  induction l with
  | nil => exact ⟨[], concatM_nil f⟩
  | cons a l ih =>
    obtain ⟨text, htext⟩ := h a (List.mem_cons_self ..)
    obtain ⟨rest, hrest⟩ := ih fun b hb => h b (List.mem_cons_of_mem _ hb)
    exact ⟨text ++ rest, concatM_cons_eq_ok.mpr ⟨text, rest, htext, hrest, rfl⟩⟩

/-- Elements are replaced one after the other. -/
theorem Relays.assemble {α : Type} {rule : Renderer → Replacement α (Fault RenderError)}
    (hreplace : ∀ mark el, Relays fun nested => (rule nested).replace mark el)
    (hunclosed : ∀ mark, Relays fun nested => (rule nested).unclosed mark)
    (done : List (List Char)) (pieces : List (Piece α)) :
    Relays fun nested => (rule nested).assemble done pieces := by
  induction pieces generalizing done with
  | nil => exact .done _
  | cons piece pieces ih =>
    cases piece with
    | kept source => exact ih (source :: done)
    | element mark el => exact (hreplace mark el).bind fun text => ih (text :: done)
    | unclosed mark t =>
      refine (hunclosed mark).bind fun policy => ?_
      cases policy with
      | dropTag => exact ih done
      | dropRest => exact .done _

namespace Engine

variable {e : Engine} (henv : e.environment.Total)

include henv

theorem exists_outputTag (scope : Scope) (stripped : Attr → Bool) (t : OpenTag) :
    ∃ out, e.outputTag scope stripped t = .ok out := by
  have hparts : ∀ p ∈ t.parts, ∃ text,
      p.edited (fun a => if stripped a then .ok .drop else e.bindingEdit scope a) = .ok text := by
    intro p _
    cases p with
    | stray source => exact ⟨source, rfl⟩
    | attr a =>
      by_cases hstripped : stripped a = true
      · exact ⟨Edit.drop.apply a, by simp [Part.edited, hstripped, bind, Except.bind, pure,
          Except.pure]⟩
      · cases htarget : e.names.target? a with
        | none =>
          exact ⟨Edit.keep.apply a, by simp [Part.edited, hstripped, bindingEdit, htarget, bind,
            Except.bind, pure, Except.pure]⟩
        | some target =>
          have hedit := bindingEdit_eq htarget (valueOf_eq henv scope (a.value.getD []))
          simp only [Part.edited, hstripped, hedit, Bool.false_eq_true, if_false]
          exact ⟨_, rfl⟩
  obtain ⟨text, htext⟩ := exists_concatM hparts
  exact ⟨'<' :: t.name ++ text ++ t.tail, by rw [outputTag, OpenTag.rebuild_eq_map, htext]; rfl⟩

theorem exists_bindings (scope : Scope) (s : List Char) : ∃ out, e.bindings scope s = .ok out := by
  rw [bindings, replaceTags_eq_concatM]
  refine exists_concatM fun segment _ => ?_
  cases segment with
  | openTag t => exact exists_outputTag henv scope _ t
  | text source | comment source | closeTag _ source => exact ⟨_, rfl⟩

/-- A turn of a loop renders what its element holds, if its guard holds. -/
theorem relays_turn (el : Element) (scope : Scope) :
    Relays fun nested => e.turn nested el scope := by
  obtain ⟨tag, htag⟩ := exists_outputTag henv scope (fun a => e.isGuard a || e.isLoop a) el.tag
  have hwritten : Relays fun nested : Renderer => (do
      let tag ← e.outputTag scope (fun a => e.isGuard a || e.isLoop a) el.tag
      let tag ← e.interpolated scope tag
      let inner ← nested scope el.inner
      return tag ++ inner ++ el.closing : RenderResult (List Char)) := by
    simp only [htag, interpolated_eq henv, bind, Except.bind]
    exact .start scope el.inner _ fun inner => .done _
  unfold turn
  cases e.names.guard? el.tag with
  | none => exact hwritten
  | some guard =>
    simp only [holds_eq henv]
    cases (e.valueIn scope guard).isTruthy with
    | true => exact hwritten
    | false => exact .done []

theorem relays_loops (scope : Scope) (s : List Char) :
    Relays fun nested => (e.loops nested scope).apply s := by
  change Relays fun nested => (e.loops nested scope).assemble [] (pieces e.names.loop? s)
  refine Relays.assemble (fun header el => ?_) (fun header => .done Unclosed.dropTag) [] _
  simp only [loops, valueOf_eq henv, bind, Except.bind]
  cases entries? (e.valueIn scope header.collection) with
  | none => exact .done []
  | some entries =>
    have hturns := Relays.mapM entries
      (fun p _ => relays_turn henv el (turnScope scope header p.1 p.2))
    exact hturns.bind fun texts => .done texts.flatten

theorem relays_conditionals (scope : Scope) (s : List Char) :
    Relays fun nested => (e.conditionals nested scope).apply s := by
  change Relays fun nested => (e.conditionals nested scope).assemble [] (pieces e.names.guard? s)
  refine Relays.assemble (fun guard el => ?_) (fun guard => ?_) [] _
  · obtain ⟨tag, htag⟩ := exists_outputTag henv scope e.isGuard el.tag
    simp only [conditionals, holds_eq henv, htag, bind, Except.bind]
    cases (e.valueIn scope guard).isTruthy with
    | true => exact .start scope el.inner _ fun inner => .done _
    | false => exact .done []
  · simp only [conditionals, holds_eq henv, bind, Except.bind]
    cases (e.valueIn scope guard).isTruthy with
    | true => exact .done Unclosed.dropTag
    | false => exact .done Unclosed.dropRest

/-- A pass does nothing with its renderer but start renderings. -/
theorem relays_pass (scope : Scope) (s : List Char) :
    Relays fun nested => e.pass nested scope s := by
  refine (relays_loops henv scope s).bind fun looped => ?_
  refine (relays_conditionals henv scope looped).bind fun kept => ?_
  obtain ⟨out, hout⟩ := exists_bindings henv scope kept
  simp only [hout]
  exact .done out

end Engine

end Stencil
