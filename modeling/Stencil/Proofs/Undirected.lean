import Stencil.Proofs.Interpolation
import Stencil.Proofs.Replacing
import Stencil.Proofs.Settling

/-!
Texts that rendering leaves alone. Where no opening tag carries a directive a pass changes nothing,
and where no expression is complete nothing is interpolated.
-/
namespace Stencil

open Directive Markup Render

def Markup.Segment.tag? : Segment → Option OpenTag
  | .openTag t => some t
  | _ => none

namespace Engine

/-- A tag without directives. -/
def Bare (e : Engine) (t : OpenTag) : Prop :=
  e.names.loop? t = none ∧ e.names.guard? t = none ∧ ∀ a ∈ t.attrs, e.names.target? a = none

instance (e : Engine) : DecidablePred e.Bare := fun t =>
  inferInstanceAs (Decidable (e.names.loop? t = none ∧ e.names.guard? t = none ∧ ∀ _ ∈ t.attrs, _))

/-- No opening tag of the text carries a directive. -/
def Undirected (e : Engine) (s : List Char) : Prop := ∀ t, .openTag t ∈ segments s → e.Bare t

instance (e : Engine) (s : List Char) : Decidable (e.Undirected s) :=
  decidable_of_iff (∀ segment ∈ segments s, ∀ t ∈ segment.tag?, e.Bare t)
    ⟨fun h t ht => h (.openTag t) ht t rfl, fun h segment hmem t ht => by
      cases segment with
      | openTag u => exact h t (Option.some.inj ht ▸ hmem)
      | text source | comment source | closeTag _ source => simp [Segment.tag?] at ht⟩

/-- A text without directives and complete expressions. -/
structure Untouched (e : Engine) (s : List Char) : Prop where
  undirected : e.Undirected s
  spanless : Spanless s

instance (e : Engine) (s : List Char) : Decidable (e.Untouched s) :=
  decidable_of_iff (e.Undirected s ∧ Spanless s)
    ⟨fun h => ⟨h.1, h.2⟩, fun h => ⟨h.undirected, h.spanless⟩⟩

variable {e : Engine} {nested : Renderer} {scope : Scope} {s : List Char}

theorem notMem_segments_openTag {t : OpenTag} (h : '<' ∉ s) : .openTag t ∉ segments s := by
  intro hmem
  have hsource : '<' ∈ sources (segments s) :=
    List.mem_flatMap.mpr ⟨.openTag t, hmem, by simp [Segment.source, OpenTag.source]⟩
  rw [sources_segments] at hsource
  exact h hsource

theorem Undirected.of_notMem (h : '<' ∉ s) : e.Undirected s :=
  fun _ hmem => absurd hmem (notMem_segments_openTag h)

/-- A tag is written part by part. -/
theorem outputTag_eq_of_parts {stripped : Attr → Bool} {t : OpenTag} {text : Part → List Char}
    (h : ∀ p ∈ t.parts,
      p.edited (fun a => if stripped a then .ok .drop else e.bindingEdit scope a) = .ok (text p)) :
    e.outputTag scope stripped t = .ok ('<' :: t.name ++ t.parts.flatMap text ++ t.tail) := by
  rw [outputTag, OpenTag.rebuild_eq_map, concatM_eq_ok h]
  rfl

theorem outputTag_of_targetless {t : OpenTag} (h : ∀ a ∈ t.attrs, e.names.target? a = none) :
    e.outputTag scope (fun _ => false) t = .ok t.source := by
  refine outputTag_eq_of_parts fun p hp => ?_
  cases p with
  | stray source => rfl
  | attr a =>
    have ha : a ∈ t.attrs := List.mem_filterMap.mpr ⟨.attr a, hp, rfl⟩
    simp [Part.edited, bindingEdit, h a ha, bind, Except.bind, pure, Except.pure, Edit.apply,
      Part.source]

theorem loops_of_undirected (h : e.Undirected s) : (e.loops nested scope).apply s = .ok s :=
  (e.loops nested scope).apply_of_unmarked fun _ hmem t ht => (h t (ht ▸ hmem)).1

theorem conditionals_of_undirected (h : e.Undirected s) :
    (e.conditionals nested scope).apply s = .ok s :=
  (e.conditionals nested scope).apply_of_unmarked fun _ hmem t ht => (h t (ht ▸ hmem)).2.1

theorem bindings_of_undirected (h : e.Undirected s) : e.bindings scope s = .ok s :=
  replaceTags_of_unchanged _ fun t hmem => outputTag_of_targetless (h t hmem).2.2

/-- Bindings have nothing left to do once there are no directives. -/
theorem pass_of_conditionals {t u : List Char} (hloops : (e.loops nested scope).apply s = .ok t)
    (hconditionals : (e.conditionals nested scope).apply t = .ok u) (hu : e.Undirected u) :
    e.pass nested scope s = .ok u := by
  rw [pass, hloops]
  simp only [bind, Except.bind, hconditionals, bindings_of_undirected hu]

theorem pass_of_loops {t : List Char} (hloops : (e.loops nested scope).apply s = .ok t)
    (ht : e.Undirected t) : e.pass nested scope s = .ok t :=
  pass_of_conditionals hloops (conditionals_of_undirected ht) ht

theorem pass_of_undirected (h : e.Undirected s) : e.pass nested scope s = .ok s :=
  pass_of_loops (loops_of_undirected h) h

/-- What a pass makes of a text is only interpolated if it has no directives. -/
theorem renderWithin_of_pass {levels : Nat} {t : List Char}
    (h : e.pass (e.renderWithin levels) scope s = .ok t) (ht : e.Undirected t) :
    e.renderWithin (levels + 1) scope s = e.interpolated scope t :=
  e.renderWithin_of_stable h (pass_of_undirected ht)

theorem renderWithin_of_undirected (levels : Nat) (h : e.Undirected s) :
    e.renderWithin (levels + 1) scope s = e.interpolated scope s :=
  renderWithin_of_pass (pass_of_undirected h) h

theorem renderWithin_of_untouched (levels : Nat) (h : e.Untouched s) :
    e.renderWithin (levels + 1) scope s = .ok s := by
  rw [renderWithin_of_undirected levels h.undirected, interpolated,
    interpolate_of_spanless _ h.spanless]

end Engine

end Stencil
