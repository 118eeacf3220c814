import Stencil.Proofs.Pairing
import Stencil.Proofs.SingleElement

/-!
Elements with a guard that fails. The loops inside such an element are written out before the guard
is looked at; then the element goes, and what stands around it is the output. Without loops inside,
nothing of the inner text has an effect.
-/
namespace Stencil

open Directive Markup Render Text

namespace Markup

/-- The closing tag right behind an inner text pairs with the opening tag in front of it, given
what follows. -/
def Head.Encloses (head : Head) (behind inner : List Char) : Prop :=
  (pair? head.name (segments (inner ++ (head.closing ++ behind)))).map (fun p => sources p.inner) =
    some inner

instance (head : Head) (behind inner : List Char) : Decidable (head.Encloses behind inner) :=
  inferInstanceAs (Decidable (_ = _))

/-- An element between two texts. -/
def Head.around (head : Head) (before behind inner : List Char) : List Char :=
  before ++ (head.source ++ (inner ++ (head.closing ++ behind)))

variable {head : Head} {before behind inner : List Char}

theorem closing?_closeTag (head : Head) :
    (Segment.closeTag head.name head.closing).closing? head.name = some head.closing := by
  simp [Segment.closing?, eqIgnoringCase]

theorem segments_of_encloses (hr : head.Readable) (h : head.Encloses behind inner) :
    segments (inner ++ (head.closing ++ behind)) =
        segments inner ++ .closeTag head.name head.closing :: segments behind ∧
      depthAfter head.name 0 (segments inner) = some 0 := by
  obtain ⟨p, hp, hinner⟩ := Option.map_eq_some_iff.mp h
  have hc : closingIn head.name 0 (segments (inner ++ (head.closing ++ behind))) =
      some p.toClosing := Option.map_eq_some_iff.mpr ⟨p, hp, rfl⟩
  rw [Template.closing_append] at hc ⊢
  exact segments_of_closingIn (Head.readMarkup_closing hr behind) hc hinner

/-- Inside an element that is not marked, the inner text is replaced by itself. -/
theorem Replacement.apply_around {α ε : Type} (r : Replacement α ε)
    (hdrop : ∀ mark, r.unclosed mark = .ok .dropTag) (hr : head.Readable)
    (hmark : r.mark? head.tag = none) (hbefore : '<' ∉ before) (hbehind : '<' ∉ behind)
    (h : head.Encloses behind inner) :
    r.apply (head.around before behind inner) =
      (r.apply inner).map (head.around before behind) := by
  obtain ⟨hsegments, hdepth⟩ := segments_of_encloses hr h
  have hhead : Unmarked r.mark? (.openTag head.tag) := by
    rintro t heq
    obtain rfl := Segment.openTag.inj heq
    exact hmark
  have hplain : ∀ s ∈ segments behind, (∀ n, s.closing? n = none) ∧ Unmarked r.mark? s := by
    intro s hs
    obtain ⟨source, rfl⟩ := segment_eq_text_of_notMem hbehind hs
    exact ⟨fun _ => rfl, fun t ht => by simp at ht⟩
  have hinner := r.run_append_closing hdrop hdepth (closing?_closeTag head) hplain
  have hsources : sources (.closeTag head.name head.closing :: segments behind) =
      head.closing ++ behind := congrArg (head.closing ++ ·) (sources_segments behind)
  rw [Head.around, r.apply_append _ hbefore, r.apply_eq_run, Template.segments_head hr, hsegments,
    r.run_unmarked hhead, hinner, r.apply_eq_run, hsources]
  cases r.run (segments inner) with
  | error f => rfl
  | ok s => simp [Except.map, Head.around, Segment.source, Head.source_tag]

/-- A marked element that is replaced by nothing. -/
theorem Replacement.apply_around_of_removed {α ε : Type} (r : Replacement α ε) {mark : α}
    (hr : head.Readable) (hempty : head.tag.isEmptyElement = false)
    (hmark : r.mark? head.tag = some mark) (hbefore : '<' ∉ before) (hbehind : '<' ∉ behind)
    (h : head.Encloses behind inner)
    (hremoved : r.replace mark ⟨head.tag, inner, head.closing⟩ = .ok []) :
    r.apply (head.around before behind inner) = .ok (before ++ behind) := by
  obtain ⟨hsegments, hdepth⟩ := segments_of_encloses hr h
  have hclosing := closingIn_of_depthAfter hdepth (closing?_closeTag head) (segments behind)
  rw [← hsegments, sources_segments] at hclosing
  have hrest : r.run (segments behind) = .ok behind := r.apply_of_notMem hbehind
  rw [Head.around, r.apply_append _ hbefore, r.apply_eq_run, Template.segments_head hr,
    r.run_element hmark hempty hclosing, hremoved]
  simp only [Except.bind, hrest, Except.map, List.nil_append]

end Markup

namespace Engine

variable {e : Engine} {scope : Scope} {head : Head} {before behind inner guard : List Char}

/-! ### One element -/

theorem conditionals_around {nested : Renderer} (hr : head.Readable)
    (hempty : head.tag.isEmptyElement = false) (hguard : e.names.guard? head.tag = some guard)
    (hfails : e.holds scope guard = .ok false) (hbefore : '<' ∉ before) (hbehind : '<' ∉ behind)
    (h : head.Encloses behind inner) :
    (e.conditionals nested scope).apply (head.around before behind inner) =
      .ok (before ++ behind) := by
  refine (e.conditionals nested scope).apply_around_of_removed hr hempty hguard hbefore hbehind h ?_
  rw [conditionals]
  simp only [hfails, bind, Except.bind, pure, Except.pure, Bool.false_eq_true, if_false]

/-- Texts around an element that start neither markup nor an expression. -/
structure Surrounding (before behind : List Char) : Prop where
  before_markup : '<' ∉ before
  before_brace : '\x7b' ∉ before
  behind_markup : '<' ∉ behind
  behind_brace : '\x7b' ∉ behind

/-- An element with a failing guard goes if its loops can be written out inside it. -/
theorem renderWithin_around {levels : Nat} {text : List Char} (hr : head.Readable)
    (hempty : head.tag.isEmptyElement = false) (hloop : e.names.loop? head.tag = none)
    (hguard : e.names.guard? head.tag = some guard) (hfails : e.holds scope guard = .ok false)
    (hs : Surrounding before behind) (h : head.Encloses behind inner)
    (hloops : (e.loops (e.renderWithin levels) scope).apply inner = .ok text)
    (htext : head.Encloses behind text) :
    e.renderWithin (levels + 1) scope (head.around before behind inner) =
      .ok (before ++ behind) := by
  have hmarkup : '<' ∉ before ++ behind := by simp [hs.before_markup, hs.behind_markup]
  have hbrace : '\x7b' ∉ before ++ behind := by simp [hs.before_brace, hs.behind_brace]
  have hundirected : e.Undirected (before ++ behind) := Undirected.of_notMem hmarkup
  have haround : (e.loops (e.renderWithin levels) scope).apply (head.around before behind inner) =
      .ok (head.around before behind text) := by
    rw [(e.loops (e.renderWithin levels) scope).apply_around (fun _ => rfl) hr hloop
      hs.before_markup hs.behind_markup h, hloops]
    rfl
  have hpass := pass_of_conditionals haround (conditionals_around hr hempty hguard hfails
    hs.before_markup hs.behind_markup htext) hundirected
  rw [renderWithin_of_pass hpass hundirected, interpolated,
    interpolate_of_spanless _ (spanless_of_notMem hbrace)]

/-- What ends the writing out of the loops ends the rendering. -/
theorem renderWithin_around_of_error {levels : Nat} {fault : Fault RenderError}
    (hr : head.Readable) (hloop : e.names.loop? head.tag = none) (hs : Surrounding before behind)
    (h : head.Encloses behind inner)
    (hloops : (e.loops (e.renderWithin levels) scope).apply inner = .error fault) :
    e.renderWithin (levels + 1) scope (head.around before behind inner) = .error fault := by
  refine e.renderWithin_of_error ?_
  rw [pass, (e.loops (e.renderWithin levels) scope).apply_around (fun _ => rfl) hr hloop
    hs.before_markup hs.behind_markup h, hloops]
  rfl

/-! ### Paragraphs with a guard -/

/-- The opening tag of a paragraph with a guard and nothing else. -/
def guardedHead (e : Engine) (guard : List Char) : Head :=
  ⟨"p".toList, [⟨e.names.guard, guard⟩]⟩

theorem attrs_guardedHead (e : Engine) (guard : List Char) :
    (e.guardedHead guard).tag.attrs = [QuotedAttr.toAttr ⟨e.names.guard, guard⟩] :=
  Head.attrs_tag _

theorem readable_guardedHead
    (hchars : ∀ c ∈ e.config.directivePrefix.toList, isAttrNameChar c = true)
    (hguard : '"' ∉ guard) : (e.guardedHead guard).Readable := by
  have hstart : "p".toList = ['p'] := by decide
  have hname : "p".toList.all isNameChar = true := by decide
  have hif : "if".toList.all isAttrNameChar = true := by decide
  refine ⟨⟨'p', [], hstart, by decide⟩, List.all_eq_true.mp hname, fun a ha => ?_⟩
  obtain rfl := List.mem_singleton.mp ha
  refine ⟨by simp [names, Names.ofPrefix], fun c hc => ?_, hguard⟩
  exact (List.mem_append.mp hc).elim (hchars c) (List.all_eq_true.mp hif c)

theorem guard?_guardedHead (e : Engine) (guard : List Char) :
    e.names.guard? (e.guardedHead guard).tag = some guard := by
  simp [Names.guard?, OpenTag.find?, attrs_guardedHead, QuotedAttr.toAttr, Attr.isNamed,
    eqIgnoringCase]

/-- Names of guards and of loops differ in length. -/
theorem loop?_guardedHead (e : Engine) (guard : List Char) :
    e.names.loop? (e.guardedHead guard).tag = none := by
  have hname : eqIgnoringCase e.names.guard e.names.loop = false := by
    rw [eqIgnoringCase, beq_eq_false_iff_ne]
    intro heq
    have hlen := congrArg List.length heq
    simp [names, Names.ofPrefix] at hlen
  simp [Names.loop?, attrs_guardedHead, Names.header?, QuotedAttr.toAttr, Attr.isNamed, hname]

/-- A paragraph with a failing guard leaves what stands around it, if its loops can be written out
and do not close it; without loops inside it always does. -/
theorem tryRender_of_failing_guard
    (hchars : ∀ c ∈ e.config.directivePrefix.toList, isAttrNameChar c = true)
    (hguard : '"' ∉ guard)
    (hfails : e.holds scope guard = .ok false) (hs : Surrounding before behind)
    (h : (e.guardedHead guard).Encloses behind inner) :
    (∀ text, (e.loops (e.renderWithin e.config.maxDepth) scope).apply inner = .ok text →
      (e.guardedHead guard).Encloses behind text →
      e.tryRender scope (String.ofList ((e.guardedHead guard).around before behind inner)) =
        .ok (String.ofList (before ++ behind))) ∧
    (∀ fault, (e.loops (e.renderWithin e.config.maxDepth) scope).apply inner = .error fault →
      e.tryRender scope (String.ofList ((e.guardedHead guard).around before behind inner)) =
        .error fault) ∧
    ((∀ t, .openTag t ∈ segments inner → e.names.loop? t = none) →
      e.tryRender scope (String.ofList ((e.guardedHead guard).around before behind inner)) =
        .ok (String.ofList (before ++ behind))) := by
  have hr := readable_guardedHead hchars hguard
  have hempty : (e.guardedHead guard).tag.isEmptyElement = false := by
    simp only [OpenTag.isEmptyElement, guardedHead, Head.tag]
    decide
  have hloop := loop?_guardedHead e guard
  have hwritten : ∀ text, (e.loops (e.renderWithin e.config.maxDepth) scope).apply inner =
        .ok text → (e.guardedHead guard).Encloses behind text →
      e.tryRender scope (String.ofList ((e.guardedHead guard).around before behind inner)) =
        .ok (String.ofList (before ++ behind)) := by
    intro text hloops htext
    rw [tryRender_eq_map String.toList_ofList, renderWithin_around hr hempty hloop
      (guard?_guardedHead e guard) hfails hs h hloops htext]
    rfl
  refine ⟨hwritten, fun fault hloops => ?_, fun hloopless => hwritten inner ?_ h⟩
  · rw [tryRender_eq_map String.toList_ofList, renderWithin_around_of_error hr hloop hs h hloops]
    rfl
  · exact (e.loops (e.renderWithin e.config.maxDepth) scope).apply_of_unmarked
      fun _ hmem t ht => hloopless t (ht ▸ hmem)

def hiddenScope : Scope :=
  Scope.root [("no", .bool false), ("xs", .seq [.string "</p>secret", .string "y"]),
    ("ys", .seq [.string "1", .string "2"])]

/-- An engine under which directive elements do not nest. -/
def shallowEngine : Engine := ⟨.bare, Config.default.withMaxDepth 0⟩

/-- Loops inside, a limit they exceed, and an inner text without loops. -/
theorem tryRender_of_failing_guard_hiddenScope :
    (standard .bare).tryRender hiddenScope
        "a<p if=\"no\"><i for=\"y in ys\">\x7b\x7b y \x7d\x7d</i></p>b" = .ok "ab" ∧
      shallowEngine.tryRender hiddenScope
        "a<p if=\"no\"><i for=\"y in ys\">\x7b\x7b y \x7d\x7d</i></p>b" =
          .error (.error (.depthExceeded 0)) ∧
      (standard .bare).tryRender hiddenScope
        "a<p if=\"no\"><p if=\"oops\"></p>\x7b\x7b <!-- --></p>b" = .ok "ab" := by
  have hs : Surrounding ['a'] ['b'] := ⟨by decide, by decide, by decide, by decide⟩
  have hchars : ∀ c ∈ (standard .bare).config.directivePrefix.toList, isAttrNameChar c = true :=
    List.all_eq_true.mp (by decide)
  have hshallowChars : ∀ c ∈ shallowEngine.config.directivePrefix.toList,
      isAttrNameChar c = true := hchars
  have hno : '"' ∉ "no".toList := by decide
  have hfails : (standard .bare).holds hiddenScope "no".toList = .ok false := by decide
  have hshallow : shallowEngine.holds hiddenScope "no".toList = .ok false := by decide
  have hturns : ((standard .bare).guardedHead "no".toList).Encloses ['b']
      "<i for=\"y in ys\">\x7b\x7b y \x7d\x7d</i>".toList := by decide +kernel
  have hnested : ((standard .bare).guardedHead "no".toList).Encloses ['b']
      "<p if=\"oops\"></p>\x7b\x7b <!-- -->".toList := by decide +kernel
  have hloop := tryRender_of_failing_guard hchars hno hfails hs hturns
  have hdeep := tryRender_of_failing_guard hshallowChars hno hshallow hs hturns
  have hplain := tryRender_of_failing_guard hchars hno hfails hs hnested
  have hloopless : ∀ segment ∈ segments "<p if=\"oops\"></p>\x7b\x7b <!-- -->".toList,
      ∀ t ∈ segment.tag?, (standard .bare).names.loop? t = none := by decide +kernel
  exact ⟨hloop.1 "<i>1</i><i>2</i>".toList (by decide +kernel) (by decide +kernel),
    hdeep.2.1 (.error (.depthExceeded 0)) (by decide +kernel),
    hplain.2.2 fun t ht => hloopless (.openTag t) ht t rfl⟩

/-- A failing guard does not hide everything: what a loop inside writes can close the element, a
loop inside can exceed the limit, and a tag inside can end in the text behind the element. -/
theorem tryRender_failing_guard_ne :
    ((standard .bare).holds hiddenScope "no".toList = .ok false ∧
      ((standard .bare).guardedHead "no".toList).Encloses []
        "<i for=\"x in xs\">\x7b\x7b x \x7d\x7d</i>".toList ∧
      (standard .bare).tryRender hiddenScope
        "<p if=\"no\"><i for=\"x in xs\">\x7b\x7b x \x7d\x7d</i></p>" =
          .ok "secret</i><i>y</i></p>" ∧
      "secret</i><i>y</i></p>" ≠ "") ∧
    (shallowEngine.holds hiddenScope "no".toList = .ok false ∧
      (shallowEngine.guardedHead "no".toList).Encloses []
        "<i for=\"y in ys\">\x7b\x7b y \x7d\x7d</i>".toList ∧
      shallowEngine.tryRender hiddenScope
        "<p if=\"no\"><i for=\"y in ys\">\x7b\x7b y \x7d\x7d</i></p>" =
          .error (.error (.depthExceeded 0))) ∧
    ((standard .bare).holds hiddenScope "no".toList = .ok false ∧
      ((standard .bare).guardedHead "no".toList).Encloses [] "<b title=\"".toList ∧
      (standard .bare).tryRender hiddenScope "<p if=\"no\"><b title=\"</p>\">" = .ok "" ∧
      "" ≠ "\">") := by
  decide +kernel

end Engine

end Stencil
