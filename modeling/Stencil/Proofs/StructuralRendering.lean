import Stencil.Proofs.Passes

/-!
Rendering the text of a template tree gives the text of its meaning. A pass over the text is a pass
over the tree, and what it needs from the renderer of inner texts is the same statement for less
deeply nested trees.
-/
namespace Stencil

open Directive Engine Markup Render Text

/-- A renderer gives trees with less than `levels` nested directives their meaning. -/
def Engine.Faithful (e : Engine) (levels : Nat) (nested : Renderer) : Prop :=
  ∀ (t : Template) (scope : Scope), t.Wellformed e.names → t.Harmless e false scope →
    t.nesting e.names < levels → nested scope t.source = .ok (t.rendered e scope).source

private theorem flatMap_filter {α β : Type} (p : α → Bool) (f : α → List β) (l : List α) :
    (l.filter p).flatMap f = l.flatMap fun a => if p a then f a else [] := by
  induction l with
  | nil => rfl
  | cons a l ih =>
    by_cases hp : p a = true
    · simp [hp, ih]
    · simp [hp, ih]

namespace Engine

variable {e : Engine} {levels : Nat} {nested : Renderer} {scope : Scope} {head : Head}
  {inner rest : Template}

theorem nesting_inner_lt {names : Names} (inner rest : Template)
    (hdirective : (names.guard? head.tag).isSome = true ∨ (names.loop? head.tag).isSome = true) :
    inner.nesting names < (Template.element head inner rest).nesting names := by
  have hown : ((names.guard? head.tag).isSome || (names.loop? head.tag).isSome) = true := by
    simpa using hdirective
  rw [Template.nesting, hown, if_pos rfl]
  omega

/-- One turn of a loop writes the element with its attributes resolved, if its guard holds. -/
theorem turn_eq (henv : e.environment.Total) (hhead : head.Wellformed e.names)
    (hshown : e.shows scope head = true →
      (∀ p ∈ e.headInserts scope head, Inert p) ∧
        nested scope inner.source = .ok (inner.rendered e scope).source) :
    e.turn nested ⟨head.tag, inner.source, head.closing⟩ scope =
      .ok (if e.shows scope head then
        (Template.element (e.resolved scope head) (inner.rendered e scope) .nil).source
      else []) := by
  have hkept : e.turn nested ⟨head.tag, inner.source, head.closing⟩ scope =
      if e.shows scope head then do
        let tag ← e.outputTag scope (fun a => e.isGuard a || e.isLoop a) head.tag
        let tag ← e.interpolated scope tag
        let text ← nested scope inner.source
        return tag ++ text ++ head.closing
      else return [] := by
    unfold turn shows
    dsimp only
    cases e.names.guard? head.tag with
    | none => rfl
    | some guard => simp only [holds_eq henv]; rfl
  rw [hkept]
  by_cases hshows : e.shows scope head = true
  · obtain ⟨hi, hnested⟩ := hshown hshows
    obtain ⟨hw, hp⟩ := bound_sound hhead hi
    have htag : e.outputTag scope (fun a => e.isGuard a || e.isLoop a) head.tag =
        .ok (e.bound scope head).source :=
      outputTag_eq hhead (fun a _ _ => valueOf_eq henv scope a.value) fun _ _ => rfl
    have hinterpolated : e.interpolated scope (e.bound scope head).source =
        .ok (e.resolved scope head).source := by
      rw [interpolated_eq henv, (hw.fill_source hp _).2, resolved_eq_mapValues hhead hi]
    simp only [bind, Except.bind, hshows, ↓reduceIte, htag, hinterpolated, hnested, pure,
      Except.pure]
    rw [Template.source, Template.source, List.append_nil, List.append_assoc]
    rfl
  · simp [hshows, pure, Except.pure]

/-- A loop writes the copies of its element. -/
theorem loops_replace (henv : e.environment.Total) (hn : e.Faithful levels nested)
    {header : LoopHeader} {hidden : Bool}
    (ht : (Template.element head inner rest).Wellformed e.names)
    (hi : (Template.element head inner rest).Harmless e hidden scope)
    (hdepth : (Template.element head inner rest).nesting e.names ≤ levels)
    (hloop : e.names.loop? head.tag = some header) :
    (e.loops nested scope).replace header ⟨head.tag, inner.source, head.closing⟩ =
      .ok (e.written scope head fun turn => inner.rendered e turn).source := by
  have hturns : ∀ turn ∈ e.turnScopes scope header,
      e.turn nested ⟨head.tag, inner.source, head.closing⟩ turn =
        .ok (if e.shows turn head then
          (Template.element (e.resolved turn head) (inner.rendered e turn) .nil).source
        else []) := by
    intro turn hturn
    refine turn_eq henv ht.1 fun hshows => ?_
    have hcopy : turn ∈ e.copies scope head := by
      simp [copies, hloop, hturn, hshows]
    have hlt := nesting_inner_lt inner rest
      (Or.inr (Option.isSome_iff_exists.mpr ⟨header, hloop⟩))
    obtain ⟨hhead, hinner⟩ := hi.of_copies hcopy (Or.inr (by rw [hloop]; rfl))
    exact ⟨hhead, hn inner turn ht.2.1 hinner (by omega)⟩
  have hwritten : (e.written scope head fun turn => inner.rendered e turn).source =
      (e.turnScopes scope header).flatMap fun turn =>
        if e.shows turn head then
          (Template.element (e.resolved turn head) (inner.rendered e turn) .nil).source
        else [] := by
    rw [written, Template.source_join, List.flatMap_map, copies, hloop]
    exact flatMap_filter _ _ _
  have hreplace : (e.loops nested scope).replace header
        ⟨head.tag, inner.source, head.closing⟩ =
      concatM (e.turn nested ⟨head.tag, inner.source, head.closing⟩)
        (e.turnScopes scope header) := by
    rw [loops, turnScopes]
    simp only [valueOf_eq henv, bind, Except.bind]
    cases entries? (e.valueIn scope header.collection) with
    | none => rfl
    | some entries => exact (concatM_map _ _ _).symm
  rw [hreplace, hwritten, concatM_eq_ok hturns]

/-- A guard keeps its element or removes it. -/
theorem conditionals_replace (henv : e.environment.Total) (hn : e.Faithful levels nested)
    {guard : List Char} (ht : (Template.element head inner rest).Loopless e.names)
    (hi : (Template.element head inner rest).Harmless e false scope)
    (hdepth : (Template.element head inner rest).nesting e.names ≤ levels)
    (hguard : e.names.guard? head.tag = some guard) :
    (e.conditionals nested scope).replace guard ⟨head.tag, inner.source, head.closing⟩ =
      .ok (Template.kept e scope head inner).source := by
  have hloop := ht.1.2
  have hholds : e.holds scope guard = .ok (e.shows scope head) := by
    rw [holds_eq henv, shows, hguard]
  rw [conditionals]
  dsimp only
  rw [hholds, Template.kept]
  by_cases hshows : e.shows scope head = true
  · have hcopy : scope ∈ e.copies scope head := by simp [copies, hloop, hshows]
    obtain ⟨-, hinner⟩ := hi.of_copies hcopy (Or.inl rfl)
    have hlt := nesting_inner_lt inner rest
      (Or.inl (Option.isSome_iff_exists.mpr ⟨guard, hguard⟩))
    have hnested := hn inner scope ht.wellformed.2.1 hinner (by omega)
    have htag : e.outputTag scope e.isGuard head.tag = .ok (e.bound scope head).source := by
      refine outputTag_eq ht.1.1 (fun a _ _ => valueOf_eq henv scope a.value) fun a ha => ?_
      have hnone : e.names.header? a.toAttr = none := Names.loop?_tag_eq_none_iff.mp hloop a ha
      simp [isLoop, hnone]
    simp only [bind, Except.bind, hshows, ↓reduceIte, htag, hnested, pure, Except.pure]
    rw [Template.source, Template.source, List.append_nil, List.append_assoc]
    rfl
  · simp [hshows, bind, Except.bind, pure, Except.pure, Template.source]

/-! ### Passes -/

open Template in
theorem eachMarked_loops (henv : e.environment.Total) (hn : e.Faithful levels nested)
    {t : Template} {hidden : Bool} (ht : t.Wellformed e.names) (hi : t.Harmless e hidden scope)
    (hdepth : t.nesting e.names ≤ levels) :
    t.EachMarked e.names.loop? fun header head inner =>
      (e.loops nested scope).replace header ⟨head.tag, inner.source, head.closing⟩ =
        .ok (e.written scope head fun turn => inner.rendered e turn).source := by
  induction t generalizing hidden with
  | nil => trivial
  | text s rest ih => exact ih ht.2 hi.rest_of_text hdepth
  | element head inner rest ihi ihr =>
    have hparts := hdepth
    rw [nesting] at hparts
    have hrest := ihr ht.2.2 hi.rest_of_element (by omega)
    rw [EachMarked]
    cases hloop : e.names.loop? head.tag with
    | some header => exact ⟨loops_replace henv hn ht hi hdepth hloop, hrest⟩
    | none =>
      obtain ⟨hidden', hinner⟩ := hi.of_inner hloop
      exact ⟨ihi ht.2.1 hinner (by omega), hrest⟩

open Template in
theorem eachMarked_conditionals (henv : e.environment.Total) (hn : e.Faithful levels nested)
    {t : Template} (ht : t.Loopless e.names) (hi : t.Harmless e false scope)
    (hdepth : t.nesting e.names ≤ levels) :
    t.EachMarked e.names.guard? fun guard head inner =>
      (e.conditionals nested scope).replace guard ⟨head.tag, inner.source, head.closing⟩ =
        .ok (kept e scope head inner).source := by
  induction t with
  | nil => trivial
  | text s rest ih => exact ih ht.2 hi.rest_of_text hdepth
  | element head inner rest ihi ihr =>
    have hparts := hdepth
    rw [nesting] at hparts
    have hrest := ihr ht.2.2 hi.rest_of_element (by omega)
    rw [EachMarked]
    cases hguard : e.names.guard? head.tag with
    | some guard => exact ⟨conditionals_replace henv hn ht hi hdepth hguard, hrest⟩
    | none =>
      have hcopy : scope ∈ e.copies scope head := by simp [copies, shows, ht.1.2, hguard]
      obtain ⟨-, hinner⟩ := hi.of_copies hcopy (Or.inl rfl)
      exact ⟨ihi ht.2.1 hinner (by omega), hrest⟩

/-- Resolving the bindings of a text without guards and loops. -/
theorem bindings_source (henv : e.environment.Total) {t : Template} (ht : t.Guardless e scope) :
    e.bindings scope t.source = .ok (t.settled e scope).source := by
  refine Template.replaceTags_source _ (e.bound scope) (fun _ => rfl)
    ht.loopless.wellformed.readable ?_
  refine ht.imp (fun _ _ => trivial) fun head hhead => ?_
  obtain ⟨hw, hloop, hguard, -⟩ := hhead
  refine outputTag_eq hw (fun a _ _ => valueOf_eq henv scope a.value) fun a ha => ?_
  have hnone : e.names.header? a.toAttr = none := Names.loop?_tag_eq_none_iff.mp hloop a ha
  have hnamed := Names.guard?_tag_eq_none_iff.mp hguard a ha
  simp [isGuard, isLoop, hnamed, hnone]

/-- The tree after one pass. -/
def passed (e : Engine) (scope : Scope) (t : Template) : Template :=
  ((t.expanded e scope).pruned e scope).settled e scope

/-- A pass over the text is a pass over the tree. -/
theorem pass_source (henv : e.environment.Total) (hn : e.Faithful levels nested) {t : Template}
    (ht : t.Wellformed e.names) (hi : t.Harmless e false scope)
    (hdepth : t.nesting e.names ≤ levels) :
    e.pass nested scope t.source = .ok (e.passed scope t).source := by
  have hloopless := Template.expanded_loopless ht hi
  have hsub := Template.inserts_expanded_subset ht hi
  have hexpanded : (t.expanded e scope).Harmless e false scope := fun p hp => hi p (hsub hp)
  have hle := Template.nesting_expanded_le ht hi
  have hloops : (e.loops nested scope).apply t.source = .ok (t.expanded e scope).source :=
    Template.apply_source _ _ ht.readable (eachMarked_loops henv hn ht hi hdepth)
  have hconditionals : (e.conditionals nested scope).apply (t.expanded e scope).source =
      .ok ((t.expanded e scope).pruned e scope).source :=
    Template.apply_source _ _ hloopless.wellformed.readable
      (eachMarked_conditionals henv hn hloopless hexpanded (by omega))
  have hbindings := bindings_source henv (Template.pruned_guardless hloopless hexpanded)
  rw [pass, hloops]
  simp only [bind, Except.bind, hconditionals, hbindings]
  rfl

/-- A pass over the text of a tree without directives changes nothing. -/
theorem pass_of_plain (henv : e.environment.Total) (nested : Renderer) (scope : Scope)
    {t : Template} (ht : t.Plain e.names) : e.pass nested scope t.source = .ok t.source := by
  have hloop : t.All (fun _ => True) fun head => e.names.loop? head.tag = none :=
    ht.imp (fun _ _ => trivial) fun _ hh => hh.2.loop?
  have hguard : t.All (fun _ => True) fun head => e.names.guard? head.tag = none :=
    ht.imp (fun _ _ => trivial) fun _ hh => hh.2.guard?
  have hreadable := ht.loopless.wellformed.readable
  have hloops := Template.apply_source_of_unmarked (e.loops nested scope) hreadable hloop
  have hconditionals :=
    Template.apply_source_of_unmarked (e.conditionals nested scope) hreadable hguard
  have hbindings := bindings_source henv (ht.guardless scope)
  rw [Template.settled_of_plain ht] at hbindings
  rw [pass, hloops]
  simp only [bind, Except.bind, hconditionals, hbindings]

theorem passed_plain {t : Template} (ht : t.Wellformed e.names) (hi : t.Harmless e false scope) :
    (e.passed scope t).Plain e.names ∧
      (e.passed scope t).filled (e.textIn scope) = t.rendered e scope := by
  have hloopless := Template.expanded_loopless ht hi
  have hsub := Template.inserts_expanded_subset ht hi
  have hexpanded : (t.expanded e scope).Harmless e false scope := fun p hp => hi p (hsub hp)
  have hguardless := Template.pruned_guardless hloopless hexpanded
  refine ⟨Template.settled_plain hguardless, ?_⟩
  rw [passed, ← Template.rendered_of_guardless hguardless,
    Template.rendered_pruned hloopless hexpanded, Template.rendered_expanded ht hi]

/-! ### Rendering -/

theorem faithful_renderWithin (henv : e.environment.Total) (levels : Nat) :
    e.Faithful levels (e.renderWithin levels) := by
  induction levels with
  | zero =>
    intro t scope _ _ hdepth
    omega
  | succ levels ih =>
    intro t scope ht hi hdepth
    obtain ⟨hplain, hfilled⟩ := passed_plain ht hi
    have hpass := pass_source henv ih ht hi (by omega)
    have hstable := pass_of_plain henv (e.renderWithin levels) scope hplain
    rw [e.renderWithin_of_stable hpass hstable, interpolated_eq henv,
      (Template.fill_source hplain _).2, hfilled]

/-- Rendering the text of a template tree gives the text of its meaning. -/
theorem tryRender_source (henv : e.environment.Total) {t : Template} (ht : t.Wellformed e.names)
    (hdepth : t.nesting e.names ≤ e.config.maxDepth) (hi : t.Harmless e false scope) :
    e.tryRender scope (String.ofList t.source) =
      .ok (String.ofList (t.rendered e scope).source) := by
  have htext := faithful_renderWithin henv (e.config.maxDepth + 1) t scope ht hi
    (Nat.lt_succ_of_le hdepth)
  rw [tryRender, String.toList_ofList, htext]
  rfl

/-- An element for every item that is not empty, with its position and its text. -/
def itemList : Template :=
  .element ⟨"li".toList, [⟨"for".toList, "(x, i) in xs".toList⟩, ⟨"if".toList, "x".toList⟩,
      ⟨"bind:title".toList, "x".toList⟩, ⟨"class".toList, (Span.expression ['i']).source⟩]⟩
    (.text (Span.expression ['x']).source .nil) .nil

def itemScope : Scope :=
  Scope.root [("xs", .seq [.string "one", .string "", .string "\"two\""])]

theorem tryRender_source_itemList :
    itemList.Wellformed (standard .bare).names ∧
      itemList.Harmless (standard .bare) false itemScope ∧
      (standard .bare).tryRender itemScope (String.ofList itemList.source) =
        .ok ("<li title=\"one\" class=\"0\">one</li>" ++
          "<li title=\"&quot;two&quot;\" class=\"2\">\"two\"</li>") := by
  have hw : itemList.Wellformed (standard .bare).names := by decide +kernel
  have hdepth : itemList.nesting (standard .bare).names ≤ (standard .bare).config.maxDepth := by
    decide
  have hi : itemList.Harmless (standard .bare) false itemScope := by decide +kernel
  refine ⟨hw, hi, ?_⟩
  rw [tryRender_source Expr.Environment.bare_total hw hdepth hi]
  decide +kernel

/-- Two values that make up an expression in a kept element. -/
def splitBraces : Template :=
  .element ⟨"i".toList, [⟨"if".toList, "shown".toList⟩]⟩
    (.text ((Span.expression ['a']).source ++ (Span.expression ['a']).source ++ ['c'] ++
      (Span.expression ['b']).source ++ (Span.expression ['b']).source) .nil) .nil

/-- A value in an attribute inside a kept element. -/
def quotedTitle : Template :=
  .element ⟨"i".toList, [⟨"if".toList, "shown".toList⟩]⟩
    (.element ⟨"a".toList, [⟨"title".toList, (Span.expression ['q']).source⟩]⟩
      (.text "x".toList .nil) .nil) .nil

def activeScope : Scope :=
  Scope.root [("shown", .bool true), ("a", .string "\x7b"), ("b", .string "\x7d"),
    ("c", .string "z"), ("q", .string "\" if=\"")]

/-- It is not enough that no value opens a tag. Braces that meet in the output of a nested level
are an expression for the level around it, and a quote that ends an attribute can start a guard. -/
theorem tryRender_ne_rendered_of_active :
    (splitBraces.Wellformed (standard .bare).names ∧
      splitBraces.nesting (standard .bare).names ≤ (standard .bare).config.maxDepth ∧
      (∀ p ∈ splitBraces.inserts (standard .bare) false activeScope, '<' ∉ p.2) ∧
      (standard .bare).tryRender activeScope (String.ofList splitBraces.source) =
        .ok "<i>z</i>" ∧
      String.ofList (splitBraces.rendered (standard .bare) activeScope).source =
        "<i>\x7b\x7bc\x7d\x7d</i>") ∧
    (quotedTitle.Wellformed (standard .bare).names ∧
      quotedTitle.nesting (standard .bare).names ≤ (standard .bare).config.maxDepth ∧
      (∀ p ∈ quotedTitle.inserts (standard .bare) false activeScope, '<' ∉ p.2) ∧
      (standard .bare).tryRender activeScope (String.ofList quotedTitle.source) =
        .ok "<i></i>" ∧
      String.ofList (quotedTitle.rendered (standard .bare) activeScope).source =
        "<i><a title=\"\" if=\"\">x</a></i>") := by
  decide +kernel

end Engine

end Stencil
