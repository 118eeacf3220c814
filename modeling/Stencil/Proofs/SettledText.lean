import Stencil.Proofs.CompleteMarkup
import Stencil.Proofs.SingleElement
import Stencil.Proofs.SpacedTag

/-!
Texts that a pass reproduces. A pass takes guards and loops off the tags that it writes and shortens
the names of bindings, so that a directive in a text that a pass reproduces can only come from what
the pass wrote into a loop's own tag or into an element: values are text of the document like any
other.
-/
namespace Stencil

open Directive Markup Render Text

namespace Engine

variable {e : Engine} {nested : Renderer} {scope : Scope} {s out : List Char} {t : OpenTag}
  {a b : Attr} {stripped : Attr → Bool} {D D' : Attr → Prop}

/-- A guard, a loop or a binding. -/
def IsDirective (e : Engine) (a : Attr) : Prop :=
  e.isGuard a = true ∨ e.isLoop a = true ∨ (e.names.target? a).isSome = true

theorem loop?_eq_none_iff : e.names.loop? t = none ↔ ∀ a ∈ t.attrs, e.isLoop a = false := by
  simp [Names.loop?, isLoop, List.findSome?_eq_none_iff]

theorem guard?_eq_none_iff : e.names.guard? t = none ↔ ∀ a ∈ t.attrs, e.isGuard a = false := by
  simp [Names.guard?, OpenTag.find?, isGuard]

theorem not_isDirective_iff :
    ¬e.IsDirective a ↔ e.isGuard a = false ∧ e.isLoop a = false ∧ e.names.target? a = none := by
  simp [IsDirective]

theorem bare_iff : e.Bare t ↔ ∀ a ∈ t.attrs, ¬e.IsDirective a := by
  rw [Bare, loop?_eq_none_iff, guard?_eq_none_iff]
  constructor
  · rintro ⟨hloop, hguard, htarget⟩ a ha
    exact not_isDirective_iff.mpr ⟨hguard a ha, hloop a ha, htarget a ha⟩
  · intro h
    have hnot := fun a ha => not_isDirective_iff.mp (h a ha)
    exact ⟨fun a ha => (hnot a ha).2.1, fun a ha => (hnot a ha).1, fun a ha => (hnot a ha).2.2⟩

/-! ### Tags that are written -/

/-- What becomes of an attribute if its expression has a value. -/
def attrChange (e : Engine) (scope : Scope) (stripped : Attr → Bool) (a : Attr) : Change :=
  if stripped a then .drop
  else
    match e.names.target? a with
    | none => .keep
    | some target =>
      match e.boundText? scope (a.value.getD []) with
      | none => .drop
      | some text => .set ⟨target, escapeQuotes text⟩

theorem edit_eq_attrChange {edit : Edit}
    (h : (if stripped a then .ok .drop else e.bindingEdit scope a) = .ok edit) :
    edit = (e.attrChange scope stripped a).edit := by
  rw [attrChange]
  by_cases hstripped : stripped a = true
  · rw [if_pos hstripped] at h ⊢
    exact (Except.ok.inj h).symm
  · rw [if_neg hstripped] at h ⊢
    cases htarget : e.names.target? a with
    | none =>
      rw [bindingEdit, htarget] at h
      exact (Except.ok.inj h).symm
    | some target =>
      cases hv : e.valueOf scope (a.value.getD []) with
      | error f => simp [bindingEdit, htarget, hv, bind, Except.bind] at h
      | ok v =>
        rw [bindingEdit_eq htarget (by rw [hv, valueIn_of_ok hv])] at h
        rw [← Except.ok.inj h]
        dsimp only
        cases e.boundText? scope (a.value.getD []) with
        | none => rfl
        | some text => simp [Change.edit, QuotedAttr.text]

theorem outputTag_eq_changed (h : e.outputTag scope stripped t = .ok out) :
    out = (t.changed (e.attrChange scope stripped)).source := by
  have hchanged : (t.rebuild fun a => .ok (e.attrChange scope stripped a).edit :
      RenderResult (List Char)) = .ok out := by
    rw [outputTag, OpenTag.rebuild_eq_map] at h
    rw [OpenTag.rebuild_eq_map]
    obtain ⟨text, htext, rfl⟩ := map_eq_ok.mp h
    rw [concatM_eq_ok_of_imp (fun p _ text hp => ?_) htext]
    · rfl
    · cases p with
      | stray source => exact hp
      | attr a =>
        obtain ⟨edit, hedit, htext⟩ := bind_eq_ok.mp hp
        rw [← htext, Part.edited, ← edit_eq_attrChange hedit]
        rfl
  rw [OpenTag.rebuild_eq_changed] at hchanged
  exact (Except.ok.inj hchanged).symm

/-- What an attribute becomes is the attribute or what its binding sets. -/
theorem attrChange_cases (h : (e.attrChange scope stripped a).attr? a = some b) :
    (b = a ∧ stripped a = false ∧ e.names.target? a = none) ∨
      ∃ target, e.names.target? a = some target ∧ b.name = target := by
  rw [attrChange] at h
  by_cases hstripped : stripped a = true
  · simp [hstripped, Change.attr?] at h
  · rw [if_neg hstripped] at h
    cases htarget : e.names.target? a with
    | none =>
      rw [htarget] at h
      exact Or.inl ⟨(Option.some.inj h).symm, Bool.eq_false_iff.mpr hstripped, rfl⟩
    | some target =>
      rw [htarget] at h
      refine Or.inr ⟨target, rfl, ?_⟩
      dsimp only at h
      split at h
      · simp [Change.attr?] at h
      · rw [← Option.some.inj h]

theorem renames_attrChange (hspelled : a.Spelled) : Renames (e.attrChange scope stripped) a := by
  have hset : ∀ q, e.attrChange scope stripped a = .set q →
      q.Readable ∧ ∀ c ∈ q.name, c ∈ a.name := by
    intro q hq
    rw [attrChange] at hq
    split at hq
    · simp at hq
    · split at hq
      · simp at hq
      · next target htarget =>
        split at hq
        · simp at hq
        · obtain rfl := Change.set.inj hq
          obtain ⟨hne, hmem⟩ := Names.target_suffix htarget
          obtain ⟨blanks, rest, hname, -⟩ := hspelled.exists_source
          exact ⟨⟨hne, fun c hc => hname.name_chars c (hmem c hc),
            fun hc => (mem_escapeQuotes hc).1 rfl⟩, hmem⟩
  refine ⟨?_, fun q hq => (hset q hq).2⟩
  cases hc : e.attrChange scope stripped a with
  | keep | drop => trivial
  | set q => exact (hset q hc).1

theorem mem_attrs_changed {change : Attr → Change} :
    b ∈ (t.changed change).attrs ↔ ∃ a ∈ t.attrs, (change a).attr? a = some b := by
  simp only [OpenTag.mem_attrs, OpenTag.changed, List.mem_filterMap]
  constructor
  · rintro ⟨p, hp, hb⟩
    cases p with
    | stray source => simp [Part.changed?] at hb
    | attr a =>
      obtain ⟨b', hb', heq⟩ := Option.map_eq_some_iff.mp hb
      obtain rfl := Part.attr.inj heq
      exact ⟨a, hp, hb'⟩
  · rintro ⟨a, ha, hb⟩
    exact ⟨.attr a, ha, by simp [Part.changed?, hb]⟩

/-- The attributes are as `D` says, and what carries a directive is plainly spelled. -/
def Tame (e : Engine) (D : Attr → Prop) (t : OpenTag) : Prop :=
  (∀ a ∈ t.attrs, D a) ∧ (e.Bare t ∨ t.Spaced)

theorem outputTag_spaced (h : e.outputTag scope stripped t = .ok out) (hscanned : t.Scanned)
    (hspaced : t.Spaced) :
    ∃ u : OpenTag, u.source = out ∧ u.Scanned ∧ u.Spaced ∧
      ∀ b ∈ u.attrs, ∃ a ∈ t.attrs, (b = a ∧ stripped a = false ∧ e.names.target? a = none) ∨
        ∃ target, e.names.target? a = some target ∧ b.name = target := by
  obtain ⟨-, -, hreads⟩ := hscanned.reads
  have hchange : ∀ a ∈ t.attrs, Renames (e.attrChange scope stripped) a :=
    fun a ha => renames_attrChange (hreads.spelled (OpenTag.mem_attrs.mp ha))
  refine ⟨_, (outputTag_eq_changed h).symm, hspaced.scanned_changed hscanned hchange,
    hspaced.changed hscanned hchange, fun b hb => ?_⟩
  obtain ⟨a, ha, hbecomes⟩ := mem_attrs_changed.mp hb
  exact ⟨a, ha, attrChange_cases hbecomes⟩

/-! ### Passes that bring no directives -/

/-- Complete markup without directives. -/
structure Clean (e : Engine) (s : List Char) : Prop where
  complete : Complete s
  undirected : e.Undirected s

/-- The text that a tag became is one tag, and it has no directive that the tag did not have. -/
def AddsNoDirective (e : Engine) (t : OpenTag) (text : List Char) : Prop :=
  ∃ u, segments text = [.openTag u] ∧ (e.Bare u ∨ u.Spaced) ∧
    ∀ a ∈ u.attrs, e.IsDirective a → ∃ b ∈ t.attrs, e.IsDirective b ∧ b.name = a.name

/-- A turn of a loop in which neither the expressions in the tag nor the inner text bring a
directive. -/
structure QuietTurn (e : Engine) (nested : Renderer) (el : Element) (scope : Scope) : Prop where
  tag : ∀ t : OpenTag, t.Scanned →
    e.outputTag scope (fun a => e.isGuard a || e.isLoop a) el.tag = .ok t.source →
    ∀ text, e.interpolated scope t.source = .ok text → e.AddsNoDirective t text
  inner : ∀ text, nested scope el.inner = .ok text → e.Clean text

/-- Nothing that a pass over the text writes for an element brings a directive. -/
structure Quiet (e : Engine) (nested : Renderer) (scope : Scope) (s : List Char) : Prop where
  turns : ∀ header el, .element header el ∈ pieces e.names.loop? s →
    ∀ v entries, e.valueOf scope header.collection = .ok v → entries? v = some entries →
    ∀ p ∈ entries,
      (∀ guard, e.names.guard? el.tag = some guard →
        e.holds (turnScope scope header p.1 p.2) guard = .ok true) →
      e.QuietTurn nested el (turnScope scope header p.1 p.2)
  kept : ∀ s', (e.loops nested scope).apply s = .ok s' →
    ∀ guard el, .element guard el ∈ pieces e.names.guard? s' → e.holds scope guard = .ok true →
    ∀ text, nested scope el.inner = .ok text → e.Clean text

/-! ### What the parts of a pass make of tags -/

theorem Clean.marked (h : e.Clean s) (hordinary : ∀ a, ¬e.IsDirective a → D a) :
    Marked (e.Tame D) s :=
  h.complete.marked fun t ht =>
    ⟨fun a ha => hordinary a (bare_iff.mp (h.undirected t ht) a ha), Or.inl (h.undirected t ht)⟩

/-- What the text of a turn consists of. -/
theorem turn_eq_ok {el : Element} (h : e.turn nested el scope = .ok out) :
    out = [] ∨ (∀ guard, e.names.guard? el.tag = some guard → e.holds scope guard = .ok true) ∧
      ∃ tag written inner,
        e.outputTag scope (fun a => e.isGuard a || e.isLoop a) el.tag = .ok tag ∧
        e.interpolated scope tag = .ok written ∧ nested scope el.inner = .ok inner ∧
        out = written ++ inner ++ el.closing := by
  have hwritten : (do
      let tag ← e.outputTag scope (fun a => e.isGuard a || e.isLoop a) el.tag
      let tag ← e.interpolated scope tag
      let inner ← nested scope el.inner
      return tag ++ inner ++ el.closing : RenderResult (List Char)) = .ok out →
      ∃ tag written inner,
        e.outputTag scope (fun a => e.isGuard a || e.isLoop a) el.tag = .ok tag ∧
        e.interpolated scope tag = .ok written ∧ nested scope el.inner = .ok inner ∧
        out = written ++ inner ++ el.closing := by
    intro h
    obtain ⟨tag, htag, h⟩ := bind_eq_ok.mp h
    obtain ⟨written, hwritten, h⟩ := bind_eq_ok.mp h
    obtain ⟨inner, hinner, h⟩ := bind_eq_ok.mp h
    exact ⟨tag, written, inner, htag, hwritten, hinner, (Except.ok.inj h).symm⟩
  rw [turn] at h
  cases hguard : e.names.guard? el.tag with
  | none =>
    rw [hguard] at h
    exact Or.inr ⟨fun guard hsome => by simp at hsome, hwritten h⟩
  | some guard =>
    rw [hguard] at h
    obtain ⟨kept, hkept, h⟩ := bind_eq_ok.mp h
    cases kept with
    | false => exact Or.inl (Except.ok.inj h).symm
    | true => exact Or.inr ⟨fun other hsome => Option.some.inj hsome ▸ hkept, hwritten h⟩

section Stages

variable (hs : Marked (e.Tame D) s) (hordinary : ∀ a, ¬e.IsDirective a → D' a)
  (hset : ∀ a b target, D a → e.names.target? a = some target → b.name = target → D' b)

include hordinary hset in
/-- A loop's own tag. -/
theorem marked_turnTag {tag written : List Char} (hscanned : t.Scanned) (hspaced : t.Spaced)
    (hD : ∀ a ∈ t.attrs, D a)
    (htag : e.outputTag scope (fun a => e.isGuard a || e.isLoop a) t = .ok tag)
    (hadds : ∀ u : OpenTag, u.Scanned → u.source = tag → e.AddsNoDirective u written) :
    Marked (e.Tame D') written := by
  obtain ⟨u, rfl, hu, -, hattrs⟩ := outputTag_spaced htag hscanned hspaced
  obtain ⟨w, hw, hplain, hdirective⟩ := hadds u hu rfl
  have hsource : w.source = written := by
    have hsources := sources_segments written
    rwa [hw, sources, List.flatMap_cons, List.flatMap_nil, List.append_nil] at hsources
  have hscanned : w.Scanned := OpenTag.scanned_of_mem_segments (s := written) (by simp [hw])
  subst hsource
  refine .of_scanned hscanned ⟨fun a ha => ?_, hplain⟩
  by_cases ha' : e.IsDirective a
  · obtain ⟨b, hb, hb', hname⟩ := hdirective a ha ha'
    obtain ⟨old, hold, ⟨rfl, hstripped, htarget⟩ | ⟨target, htarget, hbname⟩⟩ := hattrs b hb
    · -- what is kept of the tag is no directive
      obtain ⟨hguard, hloop⟩ := Bool.or_eq_false_iff.mp hstripped
      exact absurd hb' (not_isDirective_iff.mpr ⟨hguard, hloop, htarget⟩)
    · exact hset old a target (hD old hold) htarget (hname.symm.trans hbname)
  · exact hordinary a ha'

include hs hordinary hset in
/-- Loops leave tags without loops. -/
theorem marked_loops (hkeep : ∀ a, D a → e.isLoop a = false → D' a)
    (hquiet : e.Quiet nested scope s) (h : (e.loops nested scope).apply s = .ok out) :
    Marked (e.Tame D') out := by
  refine Replacement.marked_apply hs (fun t ht hloop => ?_) (fun header el text hel htext => ?_) h
  · exact ⟨fun a ha => hkeep a (ht.1 a ha) (loop?_eq_none_iff.mp hloop a ha), ht.2⟩
  · obtain ⟨hscanned, ⟨hD, hplain⟩, hloop, hclosing⟩ := hs.element (Q := e.Tame D') hel
    have hspaced := hplain.resolve_left fun hbare => by simp [loops, hbare.1] at hloop
    simp only [loops] at htext
    obtain ⟨v, hv, htext⟩ := bind_eq_ok.mp htext
    split at htext
    · next entries hentries =>
      have hturns : concatM (fun p => e.turn nested el (turnScope scope header p.1 p.2)) entries =
          .ok text := htext
      refine marked_concatM (fun p hp turn hturn => ?_) hturns
      rcases turn_eq_ok hturn with rfl | ⟨hguard, tag, written, inner, htag, hwritten, hinner, rfl⟩
      · exact .nil
      · have hturn := hquiet.turns header el hel v entries hv hentries p hp hguard
        refine (Marked.append ?_ ((hturn.inner inner hinner).marked hordinary)).append hclosing
        refine marked_turnTag hordinary hset hscanned hspaced hD htag fun u hu hsource => ?_
        subst hsource
        exact hturn.tag u hu htag written hwritten
    · obtain rfl := Except.ok.inj htext
      exact .nil

include hs hordinary hset in
/-- Conditionals leave tags without guards. -/
theorem marked_conditionals (hkeep : ∀ a, D a → e.isGuard a = false → D' a)
    (hquiet : ∀ guard el, .element guard el ∈ pieces e.names.guard? s →
      e.holds scope guard = .ok true → ∀ text, nested scope el.inner = .ok text → e.Clean text)
    (h : (e.conditionals nested scope).apply s = .ok out) : Marked (e.Tame D') out := by
  refine Replacement.marked_apply hs (fun t ht hguard => ?_) (fun guard el text hel htext => ?_) h
  · exact ⟨fun a ha => hkeep a (ht.1 a ha) (guard?_eq_none_iff.mp hguard a ha), ht.2⟩
  · obtain ⟨hscanned, ⟨hD, hplain⟩, hguard, hclosing⟩ := hs.element (Q := e.Tame D') hel
    have hspaced := hplain.resolve_left fun hbare => by simp [conditionals, hbare.2.1] at hguard
    simp only [conditionals] at htext
    obtain ⟨kept, hkept, htext⟩ := bind_eq_ok.mp htext
    cases kept with
    | false =>
      obtain rfl := Except.ok.inj htext
      exact .nil
    | true =>
      obtain ⟨tag, htag, htext⟩ := bind_eq_ok.mp htext
      obtain ⟨inner, hinner, htext⟩ := bind_eq_ok.mp htext
      obtain rfl := Except.ok.inj htext
      have hclean := hquiet guard el hel hkept inner hinner
      refine (Marked.append ?_ (hclean.marked hordinary)).append hclosing
      obtain ⟨u, rfl, hu, huspaced, hattrs⟩ := outputTag_spaced htag hscanned hspaced
      refine .of_scanned hu ⟨fun b hb => ?_, Or.inr huspaced⟩
      obtain ⟨a, ha, ⟨rfl, hstripped, -⟩ | ⟨target, htarget, hname⟩⟩ := hattrs b hb
      · exact hkeep b (hD b ha) hstripped
      · exact hset a b target (hD a ha) htarget hname

include hs hset in
/-- Bindings leave tags without the bindings that they had. -/
theorem marked_bindings (hkeep : ∀ a, D a → e.names.target? a = none → D' a)
    (h : e.bindings scope s = .ok out) : Marked (e.Tame D') out := by
  refine marked_replaceTags hs (fun t text hscanned ht htext => ?_) h
  obtain ⟨hD, hbare | hspaced⟩ := ht
  · rw [outputTag_of_targetless hbare.2.2] at htext
    obtain rfl := Except.ok.inj htext
    exact .of_scanned hscanned ⟨fun a ha => hkeep a (hD a ha) (hbare.2.2 a ha), Or.inl hbare⟩
  · obtain ⟨u, rfl, hu, huspaced, hattrs⟩ := outputTag_spaced htext hscanned hspaced
    refine .of_scanned hu ⟨fun b hb => ?_, Or.inr huspaced⟩
    obtain ⟨a, ha, ⟨rfl, -, htarget⟩ | ⟨target, htarget, hname⟩⟩ := hattrs b hb
    · exact hkeep b (hD b ha) htarget
    · exact hset a b target (hD a ha) htarget hname

end Stages

/-! ### Passes that reproduce a text -/

theorem pass_eq_ok (h : e.pass nested scope s = .ok out) :
    ∃ expanded pruned, (e.loops nested scope).apply s = .ok expanded ∧
      (e.conditionals nested scope).apply expanded = .ok pruned ∧
      e.bindings scope pruned = .ok out := by
  obtain ⟨expanded, hloops, h⟩ := bind_eq_ok.mp h
  obtain ⟨pruned, hconditionals, h⟩ := bind_eq_ok.mp h
  exact ⟨expanded, pruned, hloops, hconditionals, h⟩

/-- What a binding sets is shorter than the name of the binding. -/
theorem length_target_lt {target : List Char} (h : e.names.target? a = some target) :
    target.length < a.name.length := by
  have hbinding : 0 < e.names.binding.length := by
    simp [names, Names.ofPrefix]
  have hne := (Names.target_suffix h).1
  rw [Names.target?] at h
  split at h
  · obtain rfl := Option.some.inj h
    have hpos := List.length_pos_iff.mpr hne
    rw [List.length_drop] at hpos ⊢
    omega
  · simp at h

/-- No binding has a longer name. -/
def BindingsWithin (e : Engine) (n : Nat) (a : Attr) : Prop :=
  (e.names.target? a).isSome = true → a.name.length ≤ n

theorem BindingsWithin.of_ordinary {n : Nat} (h : ¬e.IsDirective a) : e.BindingsWithin n a :=
  fun hsome => absurd (Or.inr (Or.inr hsome)) h

theorem BindingsWithin.target {n : Nat} {target : List Char} (h : e.BindingsWithin (n + 1) a)
    (htarget : e.names.target? a = some target) (hname : b.name = target) :
    e.BindingsWithin n b := by
  intro _
  have hshorter := length_target_lt htarget
  have hbound := h (by rw [htarget]; rfl)
  rw [hname]
  omega

/-- A pass shortens the longest binding. -/
theorem pass_bindingsWithin {n : Nat} (hs : Marked (e.Tame (e.BindingsWithin (n + 1))) s)
    (hquiet : e.Quiet nested scope s) (h : e.pass nested scope s = .ok out) :
    Marked (e.Tame (e.BindingsWithin n)) out := by
  obtain ⟨expanded, pruned, hloops, hconditionals, hbindings⟩ := pass_eq_ok h
  have hordinary : ∀ a, ¬e.IsDirective a → e.BindingsWithin (n + 1) a := fun _ => .of_ordinary
  have hset : ∀ a b target, e.BindingsWithin (n + 1) a → e.names.target? a = some target →
      b.name = target → e.BindingsWithin n b := fun _ _ _ ha => ha.target
  have hset' : ∀ a b target, e.BindingsWithin (n + 1) a → e.names.target? a = some target →
      b.name = target → e.BindingsWithin (n + 1) b :=
    fun a b target ha htarget hname hsome =>
      Nat.le_succ_of_le (hset a b target ha htarget hname hsome)
  have hexpanded := marked_loops hs hordinary hset' (fun _ ha _ => ha) hquiet hloops
  have hpruned := marked_conditionals hexpanded hordinary hset' (fun _ ha _ => ha)
    (hquiet.kept expanded hloops) hconditionals
  exact marked_bindings hpruned hset (fun a _ htarget hsome => by simp [htarget] at hsome) hbindings

/-- A text that a quiet pass reproduces has no bindings. -/
theorem bindingless_of_pass {n : Nat} (hs : Marked (e.Tame (e.BindingsWithin n)) s)
    (hquiet : e.Quiet nested scope s) (h : e.pass nested scope s = .ok s) :
    Marked (e.Tame fun a => e.names.target? a = none) s := by
  induction n with
  | zero =>
    refine hs.imp fun t ht => ⟨fun a ha => ?_, ht.2⟩
    cases htarget : e.names.target? a with
    | none => exact htarget
    | some target =>
      have hshorter := length_target_lt htarget
      have hbound := ht.1 a ha (by rw [htarget]; rfl)
      omega
  | succ n ih => exact ih (pass_bindingsWithin hs hquiet h)

/-- Without bindings one pass takes all directives. -/
theorem undirected_of_bindingless (hs : Marked (e.Tame fun a => e.names.target? a = none) s)
    (hquiet : e.Quiet nested scope s) (h : e.pass nested scope s = .ok out) :
    e.Undirected out := by
  obtain ⟨expanded, pruned, hloops, hconditionals, hbindings⟩ := pass_eq_ok h
  have hexpanded : Marked (e.Tame fun a => e.names.target? a = none ∧ e.isLoop a = false)
      expanded := by
    refine marked_loops hs (fun a ha => ?_) (fun a b target hnone hsome => ?_)
      (fun a htarget hloop => ⟨htarget, hloop⟩) hquiet hloops
    · obtain ⟨-, hloop, htarget⟩ := not_isDirective_iff.mp ha
      exact ⟨htarget, hloop⟩
    · simp [hsome] at hnone
  have hpruned : Marked (e.Tame fun a => ¬e.IsDirective a) pruned := by
    refine marked_conditionals hexpanded (fun _ ha => ha) (fun a b target hnone hsome => ?_)
      (fun a ha hguard => ?_) (hquiet.kept expanded hloops) hconditionals
    · simp [hsome] at hnone
    · exact not_isDirective_iff.mpr ⟨hguard, ha.2, ha.1⟩
  have hundirected : e.Undirected pruned :=
    fun t ht => bare_iff.mpr (hpruned.scanned ht).2.1
  rw [bindings_of_undirected hundirected] at hbindings
  rwa [← Except.ok.inj hbindings]

theorem exists_length_le (l : List Attr) : ∃ n, ∀ a ∈ l, a.name.length ≤ n := by
  induction l with
  | nil => exact ⟨0, fun a ha => absurd ha List.not_mem_nil⟩
  | cons a l ih =>
    obtain ⟨n, hn⟩ := ih
    refine ⟨max a.name.length n, fun b hb => ?_⟩
    rcases List.mem_cons.mp hb with rfl | hb
    · exact Nat.le_max_left ..
    · exact Nat.le_trans (hn b hb) (Nat.le_max_right ..)

theorem exists_bindingsWithin (hcomplete : Complete s)
    (hspaced : ∀ t, .openTag t ∈ segments s → e.Bare t ∨ t.Spaced) :
    ∃ n, Marked (e.Tame (e.BindingsWithin n)) s := by
  obtain ⟨n, hn⟩ := exists_length_le
    ((segments s).flatMap fun segment => segment.tag?.toList.flatMap OpenTag.attrs)
  refine ⟨n, hcomplete.marked fun t ht => ⟨fun a ha _ => hn a ?_, hspaced t ht⟩⟩
  exact List.mem_flatMap.mpr ⟨_, ht, by simpa [Segment.tag?] using ha⟩

/-- A text without directives has no elements that are replaced. -/
theorem quiet_of_undirected (h : e.Undirected s) : e.Quiet nested scope s where
  turns header el hel := by
    obtain ⟨htag, hmark, -⟩ := among_of_mem_pieces hel
    simp [(h el.tag htag).1] at hmark
  kept s' hs' guard el hel := by
    rw [loops_of_undirected h] at hs'
    obtain rfl := Except.ok.inj hs'
    obtain ⟨htag, hmark, -⟩ := among_of_mem_pieces hel
    simp [(h el.tag htag).2.1] at hmark

/-- The text that passes settle at, if it is complete markup with plainly spelled directives, holds
no directive exactly if the last pass wrote none. -/
theorem undirected_settled_iff {left : Nat} {template : List Char}
    (h : e.settle (e.pass nested scope) left template = .ok s) (hcomplete : Complete s)
    (hspaced : ∀ t, .openTag t ∈ segments s → e.Bare t ∨ t.Spaced) :
    e.Undirected s ↔ e.Quiet nested scope s := by
  constructor
  · exact quiet_of_undirected
  · intro hquiet
    have hpass := e.pass_of_settle h
    obtain ⟨n, hn⟩ := exists_bindingsWithin hcomplete hspaced
    exact undirected_of_bindingless (bindingless_of_pass hn hquiet hpass) hquiet hpass

/-- A list whose item is a part of the tag that loops over it. -/
def repeatingScope : Scope :=
  Scope.root [("ks", .seq [.string "for=\"x in ks\" \x7b\x7b x \x7d\x7d"])]

/-- A loop whose tag is written as it was, with the loop taken off and put in again by its item. -/
def repeatingText : List Char := "<b for=\"x in ks\" \x7b\x7b x \x7d\x7d>t</b>".toList

theorem settle_repeatingText :
    libraryEngine.settle (libraryEngine.pass (libraryEngine.renderWithin 64) repeatingScope) 256
      repeatingText = .ok repeatingText := by
  have hpass : (libraryEngine.pass (libraryEngine.renderWithin 64) repeatingScope
      repeatingText).toOption = some repeatingText := by
    decide +kernel
  refine libraryEngine.settle_of_unchanged 256 ?_
  cases hnext : libraryEngine.pass (libraryEngine.renderWithin 64) repeatingScope repeatingText with
  | error f => simp [hnext, Except.toOption] at hpass
  | ok next => simpa [hnext, Except.toOption] using hpass

theorem repeatingText_spelling :
    ¬libraryEngine.Undirected repeatingText ∧ Complete repeatingText ∧
      ∀ segment ∈ segments repeatingText, ∀ t ∈ segment.tag?, t.Spaced := by
  decide +kernel

/-- A list is written out and settles without directives; the loop whose item puts the loop in again
settles as it is, with its directive. -/
theorem undirected_settled_repeatingScope :
    ((standard .bare).settle
          ((standard .bare).pass ((standard .bare).renderWithin 1) plainScope) 256
          (Template.element itemHead itemInner .nil).source =
        .ok (["a & b", "\"c\" > d"].flatMap itemText) ∧
      (standard .bare).Undirected (["a & b", "\"c\" > d"].flatMap itemText) ∧
      (standard .bare).Quiet ((standard .bare).renderWithin 1) plainScope
        (["a & b", "\"c\" > d"].flatMap itemText)) ∧
    (libraryEngine.settle (libraryEngine.pass (libraryEngine.renderWithin 64) repeatingScope) 256
        repeatingText = .ok repeatingText ∧
      ¬libraryEngine.Undirected repeatingText ∧
      ¬libraryEngine.Quiet (libraryEngine.renderWithin 64) repeatingScope repeatingText) := by
  constructor
  · obtain ⟨hundirected, hcomplete⟩ :
        (standard .bare).Undirected (["a & b", "\"c\" > d"].flatMap itemText) ∧
          Complete (["a & b", "\"c\" > d"].flatMap itemText) := by
      decide +kernel
    have hitems : plainScope.get? "items" =
        some (.seq (["a & b", "\"c\" > d"].map .string)) := rfl
    have hloops := loops_item (e := standard .bare) rfl 0 hitems
    have hsettle := (standard .bare).settle_of_stable (Nat.succ_pos 255)
      (pass_of_loops hloops hundirected) (pass_of_undirected hundirected)
    have hiff := undirected_settled_iff hsettle hcomplete fun t ht => Or.inl (hundirected t ht)
    exact ⟨hsettle, hundirected, hiff.mp hundirected⟩
  · obtain ⟨hdirective, hcomplete, hspaced⟩ := repeatingText_spelling
    have hiff := undirected_settled_iff settle_repeatingText hcomplete
      fun t ht => Or.inr (hspaced _ ht t rfl)
    exact ⟨settle_repeatingText, hdirective, fun hquiet => hdirective (hiff.mpr hquiet)⟩

/-- Passes can settle at a text with a directive. -/
theorem undirected_settled_ne :
    ¬ ∀ (e : Engine) (levels : Nat) (scope : Scope) (template s : List Char),
      e.settle (e.pass (e.renderWithin levels) scope) (max e.config.maxPasses 1) template = .ok s →
      e.Undirected s := by
  intro hall
  exact repeatingText_spelling.1
    (hall libraryEngine 64 repeatingScope repeatingText repeatingText settle_repeatingText)

end Engine

end Stencil
