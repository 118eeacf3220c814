import Stencil.Proofs.SingleElement

/-!
Bound attribute values. A binding writes its value into the tag with quotes escaped, so that it
cannot end the attribute; but the tag is interpolated afterwards, and what is in braces in the value
is evaluated.
-/
namespace Stencil.Engine

open Directive Markup Render Text

variable {e : Engine} {scope : Scope}

def titleInner : Template := .text "x".toList .nil

/-- A title bound to a value. -/
def boundHead : Head := ⟨"a".toList, [⟨"bind:title".toList, "v".toList⟩]⟩

/-- A title bound to the item of a loop on the same tag. -/
def boundLoopHead : Head :=
  ⟨"a".toList, [⟨"for".toList, "v in vs".toList⟩, ⟨"bind:title".toList, "v".toList⟩]⟩

def titleHead (s : String) : Head := ⟨"a".toList, [⟨"title".toList, escapeQuotes s.toList⟩]⟩

/-- The element with its title. -/
def titleText (s : String) : List Char :=
  "<a title=\"".toList ++ escapeQuotes s.toList ++ "\">x</a>".toList

theorem source_title (s : String) :
    (Template.element (titleHead s) titleInner .nil).source = titleText s := by
  have hstart : "<a title=\"".toList =
      '<' :: ("a".toList ++ ' ' :: ("title".toList ++ ['=', '"'])) := by decide
  have hend : "\">x</a>".toList =
      '"' :: '>' :: ("x".toList ++ '<' :: '/' :: ("a".toList ++ ['>'])) := by decide
  unfold titleText
  rw [hstart, hend]
  simp only [Template.source, titleHead, titleInner, Head.source, QuotedAttr.source, Head.closing,
    List.flatMap_cons, List.flatMap_nil, List.cons_append, List.append_assoc, List.append_nil,
    List.nil_append]

theorem titleHead_readable (s : String) : (titleHead s).Readable := by
  have htag : "a".toList.all isNameChar = true := by decide
  have hname : "title".toList ≠ [] ∧ "title".toList.all isAttrNameChar = true := by decide
  refine ⟨⟨'a', [], rfl, by decide⟩, List.all_eq_true.mp htag, fun a ha => ?_⟩
  obtain rfl := List.mem_singleton.mp ha
  exact ⟨hname.1, List.all_eq_true.mp hname.2, fun hmem => (mem_escapeQuotes hmem).1 rfl⟩

theorem titleHead_plain (hnames : e.names = Names.ofPrefix []) (s : String) :
    (titleHead s).Plain e.names := by
  intro a ha
  obtain rfl := List.mem_singleton.mp ha
  rw [hnames]
  exact (by decide : (Names.ofPrefix []).reserves "title".toList = false)

/-- Elements with titles in a row carry no directives. -/
theorem undirected_titles (hnames : e.names = Names.ofPrefix []) (values : List String) :
    e.Undirected (values.flatMap titleText) := by
  have hsource : (Template.join (values.map fun s =>
      .element (titleHead s) titleInner .nil)).source = values.flatMap titleText := by
    rw [Template.source_join, List.flatMap_map]
    exact congrArg (fun f => values.flatMap f) (funext source_title)
  rw [← hsource]
  refine undirected_source (Template.All.join fun t ht => ?_) (Template.All.join fun t ht => ?_)
  · obtain ⟨s, -, rfl⟩ := List.mem_map.mp ht
    exact ⟨⟨titleHead_readable s, rfl⟩, ⟨by decide, trivial⟩, trivial⟩
  · obtain ⟨s, -, rfl⟩ := List.mem_map.mp ht
    exact ⟨titleHead_plain hnames s, ⟨trivial, trivial⟩, trivial⟩

/-! ### Writing the binding -/

theorem attrOutput?_title (hnames : e.names = Names.ofPrefix []) {s : String}
    (hv : e.valueOf scope "v".toList = .ok (.string s)) :
    e.attrOutput? scope id ⟨"bind:title".toList, "v".toList⟩ =
      some ⟨"title".toList, escapeQuotes s.toList⟩ := by
  have hdirective : (e.isGuard (QuotedAttr.mk "bind:title".toList "v".toList).toAttr ||
      e.isLoop (QuotedAttr.mk "bind:title".toList "v".toList).toAttr) = false := by
    simp only [isGuard, isLoop, hnames]
    decide
  have htarget : e.names.target? (QuotedAttr.mk "bind:title".toList "v".toList).toAttr =
      some "title".toList := by
    rw [hnames]
    decide
  have htext : e.boundText? scope "v".toList = some s.toList := by
    rw [boundText?, valueIn_of_ok hv]
    rfl
  simp only [attrOutput?, hdirective, htarget, htext]
  rfl

theorem attrOutput?_loop (hnames : e.names = Names.ofPrefix []) :
    e.attrOutput? scope id ⟨"for".toList, "v in vs".toList⟩ = none := by
  have hdirective : (e.isGuard (QuotedAttr.mk "for".toList "v in vs".toList).toAttr ||
      e.isLoop (QuotedAttr.mk "for".toList "v in vs".toList).toAttr) = true := by
    simp only [isGuard, isLoop, hnames]
    decide
  rw [attrOutput?, if_pos hdirective]

theorem bound_boundHead (hnames : e.names = Names.ofPrefix []) {s : String}
    (hv : e.valueOf scope "v".toList = .ok (.string s)) :
    e.bound scope boundHead = titleHead s := by
  simp only [bound, headOutput, boundHead, List.filterMap_cons, List.filterMap_nil,
    attrOutput?_title hnames hv]
  rfl

theorem bound_boundLoopHead (hnames : e.names = Names.ofPrefix []) {s : String}
    (hv : e.valueOf scope "v".toList = .ok (.string s)) :
    e.bound scope boundLoopHead = titleHead s := by
  simp only [bound, headOutput, boundLoopHead, List.filterMap_cons, List.filterMap_nil,
    attrOutput?_loop hnames, attrOutput?_title hnames hv]
  rfl

/-- Every binding of the two heads is bound to `v`. -/
theorem outputTag_title (hnames : e.names = Names.ofPrefix []) {head : Head}
    (hhead : head = boundHead ∨ head = boundLoopHead) {s : String}
    (hv : e.valueOf scope "v".toList = .ok (.string s)) {stripped : Attr → Bool}
    (hs : ∀ a ∈ head.attrs, stripped a.toAttr = (e.isGuard a.toAttr || e.isLoop a.toAttr)) :
    e.outputTag scope stripped head.tag = .ok (titleHead s).source := by
  have hwell : head.Wellformed e.names := by
    rw [hnames]
    rcases hhead with rfl | rfl <;> decide
  have hvalues : ∀ a ∈ head.attrs, (e.names.target? a.toAttr).isSome = true →
      a.value = "v".toList := by
    rw [hnames]
    rcases hhead with rfl | rfl <;> decide
  have hbound : e.bound scope head = titleHead s := by
    rcases hhead with rfl | rfl
    · exact bound_boundHead hnames hv
    · exact bound_boundLoopHead hnames hv
  rw [outputTag_eq hwell (fun a ha ht => ?_) hs, hbound]
  rw [hvalues a ha ht, hv, valueIn_of_ok hv]

/-! ### Rendering -/

theorem bindings_title (hnames : e.names = Names.ofPrefix []) {s : String}
    (hv : e.valueOf scope "v".toList = .ok (.string s)) :
    e.bindings scope (Template.element boundHead titleInner .nil).source = .ok (titleText s) := by
  have hs : ∀ a ∈ boundHead.attrs, false = (e.isGuard a.toAttr || e.isLoop a.toAttr) := by
    simp only [isGuard, isLoop, hnames]
    decide
  have hsource := Template.replaceTags_source (e.outputTag scope fun _ => false) (e.bound scope)
    (fun _ => rfl) (t := .element boundHead titleInner .nil) (by decide)
    ⟨(outputTag_title hnames (Or.inl rfl) hv hs).trans (by rw [bound_boundHead hnames hv]),
      ⟨trivial, trivial⟩, trivial⟩
  rw [bindings, hsource, ← source_title, ← bound_boundHead hnames hv]
  rfl

theorem renderWithin_title (hnames : e.names = Names.ofPrefix []) (levels : Nat) {s : String}
    (hv : e.valueOf scope "v".toList = .ok (.string s)) :
    e.renderWithin (levels + 1) scope (Template.element boundHead titleInner .nil).source =
      e.interpolated scope (titleText s) := by
  have hloopless : (Template.element boundHead titleInner .nil).All (fun _ => True)
      fun head => e.names.loop? head.tag = none := by
    rw [hnames]
    decide
  have hguardless : (Template.element boundHead titleInner .nil).All (fun _ => True)
      fun head => e.names.guard? head.tag = none := by
    rw [hnames]
    decide
  have hreadable : (Template.element boundHead titleInner .nil).Readable := by decide
  have hundirected := undirected_titles hnames [s]
  rw [List.flatMap_cons, List.flatMap_nil, List.append_nil] at hundirected
  refine renderWithin_of_pass ?_ hundirected
  rw [pass, Template.apply_source_of_unmarked (e.loops (e.renderWithin levels) scope) hreadable
    hloopless]
  simp only [bind, Except.bind, Template.apply_source_of_unmarked
    (e.conditionals (e.renderWithin levels) scope) hreadable hguardless, bindings_title hnames hv]

/-- Every turn writes the title of its item, as far as there are no complete expressions in it. -/
theorem loops_titles (hnames : e.names = Names.ofPrefix []) (levels : Nat) {values : List String}
    (hvalues : e.valueOf scope "vs".toList = .ok (.seq (values.map .string)))
    (h : Spanless (values.flatMap titleText)) :
    (e.loops (e.renderWithin (levels + 1)) scope).apply
        (Template.element boundLoopHead titleInner .nil).source =
      .ok (values.flatMap titleText) := by
  have hloop : e.names.loop? boundLoopHead.tag = some ⟨"v".toList, none, "vs".toList⟩ := by
    rw [hnames]
    decide
  have hguard : e.names.guard? boundLoopHead.tag = none := by
    rw [hnames]
    decide
  have hturn : ∀ v ∈ values.map Value.string, ∀ key,
      e.turn (e.renderWithin (levels + 1))
        ⟨boundLoopHead.tag, titleInner.source, boundLoopHead.closing⟩
        (turnScope scope ⟨"v".toList, none, "vs".toList⟩ v key) =
        .ok (titleText (String.ofList v.text.toList)) := by
    intro v hmem key
    obtain ⟨s, hs, rfl⟩ := List.mem_map.mp hmem
    have hv : e.valueOf (turnScope scope ⟨"v".toList, none, "vs".toList⟩ (.string s) key)
        "v".toList = .ok (.string s) := valueOf_of_get? (get?_turnScope scope _ _ _ key)
    obtain ⟨before, behind, rfl⟩ := List.append_of_mem hs
    have htext : Spanless (titleText s) := by
      rw [List.flatMap_append, List.flatMap_cons, ← List.append_assoc] at h
      exact h.of_append
    have htag : Spanless (titleHead s).source := by
      rw [← source_title, source_singleton] at htext
      exact Spanless.of_append (a := []) htext
    have hinner : e.Untouched titleInner.source :=
      ⟨Undirected.of_notMem (by decide), spanless_of_notMem (by decide)⟩
    have htitle := turn_of_guardless hguard
      (outputTag_title hnames (Or.inr rfl) hv fun _ _ => rfl) (interpolate_of_spanless _ htag)
      (renderWithin_of_untouched levels hinner)
    rw [htitle, Value.text, String.ofList_toList, ← source_title, source_singleton,
      List.append_assoc]
    rfl
  have hloops := loops_singleton (by decide) hloop hvalues hturn
  rw [List.flatMap_map] at hloops
  rw [hloops]
  simp only [Value.text, String.ofList_toList]

theorem renderWithin_titles (hnames : e.names = Names.ofPrefix []) (levels : Nat)
    {values : List String}
    (hvalues : e.valueOf scope "vs".toList = .ok (.seq (values.map .string)))
    (h : Spanless (values.flatMap titleText)) :
    e.renderWithin (levels + 2) scope (Template.element boundLoopHead titleInner .nil).source =
      .ok (values.flatMap titleText) := by
  have hundirected := undirected_titles hnames values
  have hpass := pass_of_loops (loops_titles hnames levels hvalues h) hundirected
  rw [renderWithin_of_pass hpass hundirected, interpolated, interpolate_of_spanless _ h]

/-- A bound string stands in its attribute with quotes escaped, and the result is interpolated: it
is literal as long as what is written has no complete expression. -/
theorem render_titles (environment : Expr.Environment) (scope : Scope) :
    (∀ s : String, scope.get? "v" = some (.string s) →
      (standard environment).tryRender scope "<a bind:title=\"v\">x</a>" =
          ((standard environment).interpolated scope (titleText s)).map String.ofList ∧
        (Spanless (titleText s) →
          (standard environment).render scope "<a bind:title=\"v\">x</a>" =
            String.ofList (titleText s))) ∧
    (∀ values : List String, scope.get? "vs" = some (.seq (values.map .string)) →
      Spanless (values.flatMap titleText) →
      (standard environment).render scope "<a for=\"v in vs\" bind:title=\"v\">x</a>" =
        String.ofList (values.flatMap titleText)) := by
  have hdepth : (standard environment).config.maxDepth + 1 = 63 + 2 := rfl
  refine ⟨fun s hs => ?_, fun values hvalues h => ?_⟩
  · have htry : (standard environment).tryRender scope "<a bind:title=\"v\">x</a>" =
        ((standard environment).interpolated scope (titleText s)).map String.ofList := by
      rw [tryRender_eq_map (s := (Template.element boundHead titleInner .nil).source)
          (by decide),
        renderWithin_title rfl _ (valueOf_of_get? hs)]
    refine ⟨htry, fun h => render_of_tryRender ?_⟩
    rw [htry, interpolated, interpolate_of_spanless _ h]
    rfl
  · refine render_of_tryRender ?_
    rw [tryRender_eq_map (s := (Template.element boundLoopHead titleInner .nil).source)
        (by decide), hdepth,
      renderWithin_titles rfl 63 (valueOf_of_get? hvalues) h]
    rfl

def quotedScope : Scope :=
  Scope.root [("v", .string "say \"x\" > y"), ("vs", .seq [.string "\"", .string "<b>"])]

theorem render_titles_quotedScope :
    (standard .bare).render quotedScope "<a bind:title=\"v\">x</a>" =
        "<a title=\"say &quot;x&quot; > y\">x</a>" ∧
      (standard .bare).render quotedScope "<a for=\"v in vs\" bind:title=\"v\">x</a>" =
        "<a title=\"&quot;\">x</a><a title=\"<b>\">x</a>" := by
  obtain ⟨htitle, htitles⟩ := render_titles .bare quotedScope
  have hsingle := (htitle "say \"x\" > y" rfl).2 (by decide)
  have hloop := htitles ["\"", "<b>"] rfl (by decide)
  have hsingleText : String.ofList (titleText "say \"x\" > y") =
      "<a title=\"say &quot;x&quot; > y\">x</a>" := by decide
  have hloopText : String.ofList (["\"", "<b>"].flatMap titleText) =
      "<a title=\"&quot;\">x</a><a title=\"<b>\">x</a>" := by decide
  exact ⟨hsingle.trans hsingleText, hloop.trans hloopText⟩

def activeTitles : Scope :=
  Scope.root [("v", .string "\x7b\x7b other \x7d\x7d"), ("other", .string "\" id=\"y"),
    ("vs", .seq [.string "\x7b\x7b", .string "\x7d\x7d"])]

/-- Not every bound value is literal: one that is an expression is evaluated and can then end the
attribute, and braces of two items are an expression together. -/
theorem render_activeTitles_ne :
    (libraryEngine.render activeTitles "<a bind:title=\"v\">x</a>" =
        "<a title=\"\" id=\"y\">x</a>" ∧
      "<a title=\"\" id=\"y\">x</a>" ≠
        String.ofList (titleText "\x7b\x7b other \x7d\x7d")) ∧
    (libraryEngine.render activeTitles "<a for=\"v in vs\" bind:title=\"v\">x</a>" =
        "<a title=\">x</a><a title=\">x</a>" ∧
      "<a title=\">x</a><a title=\">x</a>" ≠
        String.ofList (["\x7b\x7b", "\x7d\x7d"].flatMap titleText)) := by
  decide +kernel

end Stencil.Engine
