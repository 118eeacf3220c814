import Stencil.Library.Builtin
import Stencil.Proofs.Evaluation
import Stencil.Proofs.Output
import Stencil.Proofs.Undirected

/-!
Values in the output of one element. A value becomes part of the text that is scanned and
interpolated again, so it stays as it is exactly as long as the output has neither directives nor
complete expressions.
-/
namespace Stencil.Engine

open Directive Markup Render Text

variable {e : Engine} {nested : Renderer} {scope : Scope} {head : Head} {inner : Template}

/-- An expression that is a bound name means that name, whatever can be called. -/
theorem valueOf_of_get? {source : List Char} {v : Value}
    (h : scope.get? (String.ofList (trim source)) = some v) : e.valueOf scope source = .ok v := by
  rw [valueOf, Expr.evaluate_of_tryEvaluate (Expr.tryEvaluate_of_get? h)]
  rfl

theorem undirected_source {t : Template} (ht : t.Readable)
    (hp : t.All (fun _ => True) (Head.Plain e.names)) : e.Undirected t.source := by
  intro tag hmem
  rw [← List.append_nil t.source] at hmem
  rcases Template.tag_of_mem_segments ht hp hmem with ⟨head, hplain, rfl⟩ | hnil
  · refine ⟨hplain.loop?, hplain.guard?, fun a ha => ?_⟩
    rw [head.attrs_tag] at ha
    obtain ⟨b, hb, rfl⟩ := List.mem_map.mp ha
    exact (Names.reserves_eq_false_iff.mp (hplain b hb)).2.2
  · simp [segments_nil] at hnil

/-! ### Loops and guards on one element -/

theorem source_singleton (head : Head) (inner : Template) :
    (Template.element head inner .nil).source = head.source ++ (inner.source ++ head.closing) := by
  rw [Template.source, Template.source, List.append_nil]

/-- A loop over a sequence writes the texts of its turns. -/
theorem loops_singleton (ht : (Template.element head inner .nil).Readable) {header : LoopHeader}
    {items : List Value} {text : Value → List Char}
    (hloop : e.names.loop? head.tag = some header)
    (hitems : e.valueOf scope header.collection = .ok (.seq items))
    (hturn : ∀ item ∈ items, ∀ key,
      e.turn nested ⟨head.tag, inner.source, head.closing⟩ (turnScope scope header item key) =
        .ok (text item)) :
    (e.loops nested scope).apply (Template.element head inner .nil).source =
      .ok (items.flatMap text) := by
  have hreplace : (e.loops nested scope).replace header ⟨head.tag, inner.source, head.closing⟩ =
      .ok (items.flatMap text) := by
    have hturns : concatM (fun p => e.turn nested ⟨head.tag, inner.source, head.closing⟩
          (turnScope scope header p.1 p.2))
        (items.zipIdx.map fun p => (p.1, Value.ofNat p.2)) = .ok (items.flatMap text) := by
      have hmem : ∀ p ∈ items.zipIdx.map fun p => (p.1, Value.ofNat p.2),
          e.turn nested ⟨head.tag, inner.source, head.closing⟩
            (turnScope scope header p.1 p.2) = .ok (text p.1) := by
        intro p hp
        obtain ⟨q, hq, rfl⟩ := List.mem_map.mp hp
        exact hturn q.1 (List.fst_mem_of_mem_zipIdx hq) _
      rw [concatM_eq_ok hmem, List.flatMap_map]
      have hfst := List.zipIdx_map_fst 0 items
      conv => right; rw [← hfst, List.flatMap_map]
    rw [loops]
    simp only [hitems, entries?, bind, Except.bind]
    exact hturns
  exact Template.apply_source_element (e.loops nested scope) ht hloop hreplace

/-- An element with a guard that holds stays, with its attributes resolved. -/
theorem conditionals_singleton (ht : (Template.element head inner .nil).Readable)
    {guard tag text : List Char} (hguard : e.names.guard? head.tag = some guard)
    (hholds : e.holds scope guard = .ok true)
    (htag : e.outputTag scope e.isGuard head.tag = .ok tag)
    (hinner : nested scope inner.source = .ok text) :
    (e.conditionals nested scope).apply (Template.element head inner .nil).source =
      .ok (tag ++ text ++ head.closing) := by
  refine Template.apply_source_element (e.conditionals nested scope) ht hguard ?_
  rw [conditionals]
  simp only [hholds, htag, hinner, bind, Except.bind, pure, Except.pure, if_true]

theorem outputTag_of_stripped {stripped : Attr → Bool}
    (h : ∀ a ∈ head.attrs, stripped a.toAttr = true) :
    e.outputTag scope stripped head.tag = .ok (Head.mk head.name []).source := by
  have hparts : ∀ p ∈ head.tag.parts,
      p.edited (fun a => if stripped a then .ok .drop else e.bindingEdit scope a) = .ok [] := by
    intro p hp
    obtain ⟨a, ha, rfl⟩ := List.mem_map.mp hp
    simp [Part.edited, h a ha, bind, Except.bind, pure, Except.pure, Edit.apply]
  rw [outputTag_eq_of_parts hparts]
  simp [Head.source, Head.tag]

/-- A turn without a guard. -/
theorem turn_of_guardless {tag interpolated text : List Char}
    (hguard : e.names.guard? head.tag = none)
    (htag : e.outputTag scope (fun a => e.isGuard a || e.isLoop a) head.tag = .ok tag)
    (hinterpolated : e.interpolated scope tag = .ok interpolated)
    (hinner : nested scope inner.source = .ok text) :
    e.turn nested ⟨head.tag, inner.source, head.closing⟩ scope =
      .ok (interpolated ++ text ++ head.closing) := by
  simp only [turn, hguard, htag, hinterpolated, hinner, bind, Except.bind, pure, Except.pure,
    if_true]

/-! ### Values as they are -/

/-- An expression by itself becomes its text. -/
theorem interpolated_expression {source : List Char} {v : Value} (hsource : '\x7d' ∉ source)
    (hv : e.valueOf scope (trim source) = .ok v) :
    e.interpolated scope (Span.expression source).source = .ok v.text.toList := by
  have hnext := nextExpression_span [] hsource
  have hempty : spans [] = [.plain []] := spans_eq_of_spanless (spanless_of_notMem (by simp))
  rw [List.append_nil] at hnext
  rw [interpolated, interpolate_eq_concatM, Span.source, spans_eq_of_next hnext, hempty]
  simp [concatM_cons, concatM_nil, Span.filled?, hv, bind, Except.bind, pure, Except.pure,
    Except.map]

theorem get?_turnScope (scope : Scope) (item collection : List Char) (v key : Value) :
    (turnScope scope ⟨item, none, collection⟩ v key).get? (String.ofList item) = some v := by
  simp [turnScope, Scope.derive, Scope.get?, Scope.layers, Record.get?]

/-- A text around an expression that is a bound name. -/
theorem renderWithin_expression (levels : Nat) {source : List Char} {v : Value}
    (hmarkup : '<' ∉ (Span.expression source).source) (hsource : '\x7d' ∉ source)
    (hv : e.valueOf scope (trim source) = .ok v) :
    e.renderWithin (levels + 1) scope (Template.text (Span.expression source).source .nil).source =
      .ok v.text.toList := by
  rw [Template.source, Template.source, List.append_nil,
    renderWithin_of_undirected levels (Undirected.of_notMem hmarkup),
    interpolated_expression hsource hv]

/-! ### Values as contents -/

def itemHead : Head := ⟨"li".toList, [⟨"for".toList, "item in items".toList⟩]⟩

def itemInner : Template := .text (Span.expression " item ".toList).source .nil

/-- An item as the content of its element. -/
def itemText (s : String) : List Char := "<li>".toList ++ s.toList ++ "</li>".toList

theorem loops_item (hnames : e.names = Names.ofPrefix []) (levels : Nat) {items : List String}
    (hitems : scope.get? "items" = some (.seq (items.map .string))) :
    (e.loops (e.renderWithin (levels + 1)) scope).apply
        (Template.element itemHead itemInner .nil).source =
      .ok (items.flatMap itemText) := by
  have hloop : e.names.loop? itemHead.tag = some ⟨"item".toList, none, "items".toList⟩ := by
    rw [hnames]
    decide
  have hguard : e.names.guard? itemHead.tag = none := by
    rw [hnames]
    decide
  have hstripped : ∀ a ∈ itemHead.attrs, (e.isGuard a.toAttr || e.isLoop a.toAttr) = true := by
    simp only [isGuard, isLoop, hnames]
    decide
  have hturn : ∀ v ∈ items.map Value.string, ∀ key,
      e.turn (e.renderWithin (levels + 1)) ⟨itemHead.tag, itemInner.source, itemHead.closing⟩
        (turnScope scope ⟨"item".toList, none, "items".toList⟩ v key) =
        .ok ("<li>".toList ++ v.text.toList ++ "</li>".toList) := by
    intro v _ key
    have hv := get?_turnScope scope "item".toList "items".toList v key
    exact turn_of_guardless hguard (outputTag_of_stripped hstripped)
      (interpolate_of_spanless _ (spanless_of_notMem (by decide)))
      (renderWithin_expression levels (by decide) (by decide) (valueOf_of_get? hv))
  have hloops := loops_singleton (by decide) hloop (valueOf_of_get? hitems) hturn
  rw [List.flatMap_map] at hloops
  exact hloops

def innerHead : Head := ⟨"p".toList, [⟨"if".toList, "flag".toList⟩]⟩

def innerInner : Template := .text (Span.expression " inner ".toList).source .nil

/-- A value as the content of a kept element. -/
def innerText (s : String) : List Char := "<p>".toList ++ s.toList ++ "</p>".toList

theorem conditionals_inner (hnames : e.names = Names.ofPrefix []) (levels : Nat) {s : String}
    {flag : Value} (hs : scope.get? "inner" = some (.string s))
    (hflag : scope.get? "flag" = some flag) (htruthy : flag.isTruthy = true) :
    (e.conditionals (e.renderWithin (levels + 1)) scope).apply
        (Template.element innerHead innerInner .nil).source = .ok (innerText s) := by
  have hguard : e.names.guard? innerHead.tag = some "flag".toList := by
    rw [hnames]
    decide
  have hstripped : ∀ a ∈ innerHead.attrs, e.isGuard a.toAttr = true := by
    simp only [isGuard, hnames]
    decide
  have hflagValue : e.valueOf scope "flag".toList = .ok flag := valueOf_of_get? hflag
  have hholds : e.holds scope "flag".toList = .ok true := by
    simp only [holds, hflagValue, bind, Except.bind, pure, Except.pure, htruthy]
  have hvalue : e.valueOf scope (trim " inner ".toList) = .ok (.string s) := valueOf_of_get? hs
  have hinner := renderWithin_expression levels (by decide) (by decide) hvalue
  have hkept := conditionals_singleton (by decide) hguard hholds
    (outputTag_of_stripped hstripped) hinner
  have hstart : (Head.mk innerHead.name []).source = "<p>".toList := by decide
  have hend : innerHead.closing = "</p>".toList := by decide
  rw [hstart, hend] at hkept
  exact hkept

/-- What an element writes is interpolated once more where it carries no directives. -/
theorem renderWithin_item (hnames : e.names = Names.ofPrefix []) (levels : Nat)
    {items : List String} (hitems : scope.get? "items" = some (.seq (items.map .string)))
    (h : e.Undirected (items.flatMap itemText)) :
    e.renderWithin (levels + 2) scope (Template.element itemHead itemInner .nil).source =
      e.interpolated scope (items.flatMap itemText) :=
  renderWithin_of_pass (pass_of_loops (loops_item hnames levels hitems) h) h

theorem renderWithin_inner (hnames : e.names = Names.ofPrefix []) (levels : Nat) {s : String}
    {flag : Value} (hs : scope.get? "inner" = some (.string s))
    (hflag : scope.get? "flag" = some flag) (htruthy : flag.isTruthy = true)
    (h : e.Undirected (innerText s)) :
    e.renderWithin (levels + 2) scope (Template.element innerHead innerInner .nil).source =
      e.interpolated scope (innerText s) := by
  have hloopless : (Template.element innerHead innerInner .nil).All (fun _ => True)
      fun head => e.names.loop? head.tag = none := by
    rw [hnames]
    decide
  have hloops := Template.apply_source_of_unmarked (e.loops (e.renderWithin (levels + 1)) scope)
    (by decide) hloopless
  have hconditionals := conditionals_inner hnames levels hs hflag htruthy
  exact renderWithin_of_pass (pass_of_conditionals hloops hconditionals h) h

theorem tryRender_eq_map {template : String} {s : List Char} (h : template.toList = s) :
    e.tryRender scope template =
      (e.renderWithin (e.config.maxDepth + 1) scope s).map String.ofList := by
  rw [tryRender, h]
  cases e.renderWithin (e.config.maxDepth + 1) scope s <;> rfl

theorem render_of_tryRender {template out : String} (h : e.tryRender scope template = .ok out) :
    e.render scope template = out := by
  rw [render, h]

/-- Values that are contents of elements are literal as long as what is written has neither
directives nor complete expressions; complete expressions are evaluated. -/
theorem render_contents (environment : Expr.Environment) (scope : Scope) :
    (∀ items : List String, scope.get? "items" = some (.seq (items.map .string)) →
      ((standard environment).Undirected (items.flatMap itemText) →
        (standard environment).tryRender scope
            "<li for=\"item in items\">\x7b\x7b item \x7d\x7d</li>" =
          ((standard environment).interpolated scope (items.flatMap itemText)).map
            String.ofList) ∧
      ((standard environment).Untouched (items.flatMap itemText) →
        (standard environment).render scope
            "<li for=\"item in items\">\x7b\x7b item \x7d\x7d</li>" =
          String.ofList (items.flatMap itemText))) ∧
    (∀ (s : String) (flag : Value), scope.get? "inner" = some (.string s) →
      scope.get? "flag" = some flag → flag.isTruthy = true →
      ((standard environment).Undirected (innerText s) →
        (standard environment).tryRender scope
            "<p if=\"flag\">\x7b\x7b inner \x7d\x7d</p>" =
          ((standard environment).interpolated scope (innerText s)).map String.ofList) ∧
      ((standard environment).Untouched (innerText s) →
        (standard environment).render scope
            "<p if=\"flag\">\x7b\x7b inner \x7d\x7d</p>" = String.ofList (innerText s))) := by
  have hdepth : (standard environment).config.maxDepth + 1 = 63 + 2 := rfl
  refine ⟨fun items hitems => ?_, fun s flag hs hflag htruthy => ?_⟩
  · have htry (h : (standard environment).Undirected (items.flatMap itemText)) :
        (standard environment).tryRender scope
            "<li for=\"item in items\">\x7b\x7b item \x7d\x7d</li>" =
          ((standard environment).interpolated scope (items.flatMap itemText)).map
            String.ofList := by
      rw [tryRender_eq_map (s := (Template.element itemHead itemInner .nil).source)
          (by decide), hdepth,
        renderWithin_item rfl 63 hitems h]
    refine ⟨htry, fun h => render_of_tryRender ?_⟩
    rw [htry h.undirected, interpolated, interpolate_of_spanless _ h.spanless]
    rfl
  · have htry (h : (standard environment).Undirected (innerText s)) :
        (standard environment).tryRender scope
            "<p if=\"flag\">\x7b\x7b inner \x7d\x7d</p>" =
          ((standard environment).interpolated scope (innerText s)).map String.ofList := by
      rw [tryRender_eq_map (s := (Template.element innerHead innerInner .nil).source)
          (by decide), hdepth,
        renderWithin_inner rfl 63 hs hflag htruthy h]
    refine ⟨htry, fun h => render_of_tryRender ?_⟩
    rw [htry h.undirected, interpolated, interpolate_of_spanless _ h.spanless]
    rfl

def plainScope : Scope :=
  Scope.root [("items", .seq [.string "a & b", .string "\"c\" > d"]), ("inner", .string "x < y"),
    ("flag", .bool true)]

theorem render_contents_plainScope :
    (standard .bare).render plainScope "<li for=\"item in items\">\x7b\x7b item \x7d\x7d</li>" =
        "<li>a & b</li><li>\"c\" > d</li>" ∧
      (standard .bare).render plainScope "<p if=\"flag\">\x7b\x7b inner \x7d\x7d</p>" =
        "<p>x < y</p>" := by
  obtain ⟨hitems, hinner⟩ := render_contents .bare plainScope
  have hli := (hitems ["a & b", "\"c\" > d"] rfl).2 (by decide +kernel)
  have hp := (hinner "x < y" (.bool true) rfl rfl rfl).2 (by decide +kernel)
  exact ⟨hli, hp⟩

/-- The engine with the helpers of the library and the settings where none are given. -/
def libraryEngine : Engine :=
  standard ⟨Library.registry ⟨⟨⟨2024, 1, 1⟩, Calendar.Time.midnight⟩, 0⟩, fun _ _ => .ok .null⟩

def activeContents : Scope :=
  Scope.root [("items", .seq [.string "\x7b\x7b other \x7d\x7d"]), ("other", .string "x"),
    ("inner", .string "<b if=\"missing\">y</b>"), ("flag", .bool true)]

/-- Not every value is literal: one that is an expression is evaluated, and a tag in a value can
be a directive. -/
theorem render_activeContents_ne :
    (libraryEngine.render activeContents
        "<li for=\"item in items\">\x7b\x7b item \x7d\x7d</li>" = "<li>x</li>" ∧
      "<li>x</li>" ≠ String.ofList (["\x7b\x7b other \x7d\x7d"].flatMap itemText)) ∧
    (libraryEngine.render activeContents "<p if=\"flag\">\x7b\x7b inner \x7d\x7d</p>" =
        "<p></p>" ∧
      "<p></p>" ≠ String.ofList (innerText "<b if=\"missing\">y</b>")) := by
  decide +kernel

end Stencil.Engine
