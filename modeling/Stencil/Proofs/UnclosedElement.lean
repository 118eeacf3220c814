import Stencil.Proofs.Pairing
import Stencil.Proofs.ScannedTag
import Stencil.Proofs.SingleElement

/-!
Opening tags that nothing closes. The part of a pass that marks such a tag first has the say: a loop
loses its tag and nothing else, a guard that fails takes the rest of the text with it. On a tag with
both the guard is never asked, and the text behind the tag shows.
-/
namespace Stencil

open Directive Markup Render Text

/-- Nothing in the text closes an element of this name. -/
def Markup.Closeless (name s : List Char) : Prop :=
  ∀ segment ∈ segments s, segment.closing? name = none

instance (name s : List Char) : Decidable (Closeless name s) :=
  inferInstanceAs (Decidable (∀ segment ∈ segments s, segment.closing? name = none))

theorem Markup.Closeless.pair? {name s : List Char} (h : Closeless name s) :
    pair? name (segments s) = none :=
  Option.map_eq_none_iff.mp (closingIn_append_of_none (closingIn_nil name 0) h)

theorem Markup.Closeless.of_notMem {name s : List Char} (h : '<' ∉ s) : Closeless name s := by
  intro segment hmem
  obtain ⟨source, rfl⟩ := segment_eq_text_of_notMem h hmem
  rfl

/-- What is in front of a marked tag that is not closed stays. -/
theorem Markup.Replacement.apply_unclosed {α ε : Type} (r : Replacement α ε)
    {before rest : List Char} {t : OpenTag} {mark : α} (hbefore : '<' ∉ before) (ht : t.Scanned)
    (hfull : t.isEmptyElement = false) (hmark : r.mark? t = some mark)
    (hopen : Closeless t.name rest) :
    r.apply (before ++ (t.source ++ rest)) =
      ((r.unclosed mark).bind fun policy =>
        match policy with
        | .dropTag => r.apply rest
        | .dropRest => .ok []).map (before ++ ·) := by
  rw [r.apply_append _ hbefore, r.apply_eq_run, ht.segments_append,
    r.run_unclosed hmark hfull hopen.pair?]
  rfl

namespace Engine

variable {e : Engine} {nested : Renderer} {scope : Scope} {before rest guard : List Char}
  {t : OpenTag}

theorem Undirected.append (hbefore : '<' ∉ before) (h : e.Undirected rest) :
    e.Undirected (before ++ rest) :=
  fun u hu => h u (((Template.tagFold u).read_append rest hbefore).mp hu)

/-- What is in front of an unmarked tag stays, and so does the tag. -/
theorem loops_unclosed_of_loopless (hbefore : '<' ∉ before) (ht : t.Scanned)
    (hloop : e.names.loop? t = none) (hrest : e.Undirected rest) :
    (e.loops nested scope).apply (before ++ (t.source ++ rest)) =
      .ok (before ++ (t.source ++ rest)) := by
  have hrun : (e.loops nested scope).run (segments rest) = .ok rest := loops_of_undirected hrest
  rw [Replacement.apply_append _ _ hbefore, Replacement.apply_eq_run, ht.segments_append,
    Replacement.run_unmarked _ (unmarked_openTag hloop), hrun]
  rfl

/-- A loop that is not closed loses its tag. -/
theorem loops_unclosed {header : LoopHeader} (hbefore : '<' ∉ before) (ht : t.Scanned)
    (hfull : t.isEmptyElement = false) (hloop : e.names.loop? t = some header)
    (hrest : e.Undirected rest) (hopen : Closeless t.name rest) :
    (e.loops nested scope).apply (before ++ (t.source ++ rest)) = .ok (before ++ rest) := by
  rw [(e.loops nested scope).apply_unclosed hbefore ht hfull hloop hopen,
    loops_of_undirected hrest]
  rfl

/-- A guard that fails and is not closed takes the rest with it. -/
theorem conditionals_unclosed (hbefore : '<' ∉ before) (ht : t.Scanned)
    (hfull : t.isEmptyElement = false) (hguard : e.names.guard? t = some guard)
    (hfails : e.holds scope guard = .ok false) (hopen : Closeless t.name rest) :
    (e.conditionals nested scope).apply (before ++ (t.source ++ rest)) = .ok before := by
  have hpolicy : (e.conditionals nested scope).unclosed guard = .ok .dropRest := by
    simp only [conditionals, hfails, bind, Except.bind, pure, Except.pure, Bool.false_eq_true,
      if_false]
  rw [(e.conditionals nested scope).apply_unclosed hbefore ht hfull hguard hopen, hpolicy]
  simp only [Except.bind, Except.map, List.append_nil]

theorem renderWithin_unclosed_guard (levels : Nat) (hbefore : '<' ∉ before)
    (hbrace : '\x7b' ∉ before) (ht : t.Scanned) (hfull : t.isEmptyElement = false)
    (hloop : e.names.loop? t = none) (hguard : e.names.guard? t = some guard)
    (hfails : e.holds scope guard = .ok false) (hrest : e.Undirected rest)
    (hopen : Closeless t.name rest) :
    e.renderWithin (levels + 1) scope (before ++ (t.source ++ rest)) = .ok before := by
  have hbare : e.Undirected before := Undirected.of_notMem hbefore
  have hpass : e.pass (e.renderWithin levels) scope (before ++ (t.source ++ rest)) = .ok before :=
    pass_of_conditionals (loops_unclosed_of_loopless hbefore ht hloop hrest)
      (conditionals_unclosed hbefore ht hfull hguard hfails hopen) hbare
  rw [renderWithin_of_pass hpass hbare, interpolated,
    interpolate_of_spanless _ (spanless_of_notMem hbrace)]

theorem renderWithin_unclosed_loop (levels : Nat) {header : LoopHeader} (hbefore : '<' ∉ before)
    (hbrace : '\x7b' ∉ before) (ht : t.Scanned) (hfull : t.isEmptyElement = false)
    (hloop : e.names.loop? t = some header) (hrest : e.Undirected rest)
    (hopen : Closeless t.name rest) :
    e.renderWithin (levels + 1) scope (before ++ (t.source ++ rest)) =
      (e.interpolated scope rest).map (before ++ ·) := by
  have hbare : e.Undirected (before ++ rest) := hrest.append hbefore
  have hpass : e.pass (e.renderWithin levels) scope (before ++ (t.source ++ rest)) =
      .ok (before ++ rest) :=
    pass_of_loops (loops_unclosed hbefore ht hfull hloop hrest hopen) hbare
  rw [renderWithin_of_pass hpass hbare, interpolated, interpolate_append _ _ hbrace]
  rfl

/-- An unclosed tag with a failing guard hides what follows it if it carries no loop, and with a
loop only if what follows it shows nothing anyway. -/
theorem tryRender_of_unclosed_guard (hbefore : '<' ∉ before) (hbrace : '\x7b' ∉ before)
    (ht : t.Scanned) (hfull : t.isEmptyElement = false) (hguard : e.names.guard? t = some guard)
    (hfails : e.holds scope guard = .ok false) (hrest : e.Undirected rest)
    (hopen : Closeless t.name rest) :
    (∀ header, e.names.loop? t = some header →
      e.tryRender scope (String.ofList (before ++ (t.source ++ rest))) =
        (e.interpolated scope rest).map fun s => String.ofList (before ++ s)) ∧
    (e.tryRender scope (String.ofList (before ++ (t.source ++ rest))) =
        .ok (String.ofList before) ↔
      e.names.loop? t = none ∨ e.interpolated scope rest = .ok []) := by
  have hlooped : ∀ header, e.names.loop? t = some header →
      e.tryRender scope (String.ofList (before ++ (t.source ++ rest))) =
        (e.interpolated scope rest).map fun s => String.ofList (before ++ s) := by
    intro header hloop
    rw [tryRender_eq_map String.toList_ofList,
      renderWithin_unclosed_loop _ hbefore hbrace ht hfull hloop hrest hopen]
    cases e.interpolated scope rest <;> rfl
  refine ⟨hlooped, ?_⟩
  cases hloop : e.names.loop? t with
  | none =>
    refine iff_of_true ?_ (Or.inl rfl)
    rw [tryRender_eq_map String.toList_ofList,
      renderWithin_unclosed_guard _ hbefore hbrace ht hfull hloop hguard hfails hrest hopen]
    rfl
  | some header =>
    rw [hlooped header hloop]
    cases hshown : e.interpolated scope rest with
    | error f => simp [Except.map]
    | ok s =>
      have hinjective : String.ofList (before ++ s) = String.ofList before ↔ s = [] := by
        rw [← String.toList_inj, String.toList_ofList, String.toList_ofList,
          List.append_right_eq_self]
      simp only [Except.map, Except.ok.injEq, hinjective, reduceCtorEq, false_or]

/-- A guard by itself. -/
def guardHead : Head := ⟨"p".toList, [⟨"if".toList, "no".toList⟩]⟩

/-- A guard beside a loop. -/
def guardLoopHead : Head :=
  ⟨"p".toList, [⟨"if".toList, "no".toList⟩, ⟨"for".toList, "x in xs".toList⟩]⟩

def refusingScope : Scope := Scope.root [("no", .bool false), ("xs", .seq [])]

theorem tryRender_of_unclosed_guard_refusingScope :
    (standard .bare).tryRender refusingScope "a<p if=\"no\">secret" = .ok "a" ∧
      (standard .bare).tryRender refusingScope "a<p if=\"no\" for=\"x in xs\">secret" =
        .ok "asecret" := by
  have hfails : (standard .bare).holds refusingScope "no".toList = .ok false := by decide
  have hrest : (standard .bare).Undirected "secret".toList := Undirected.of_notMem (by decide)
  have hopen : Closeless "p".toList "secret".toList := Closeless.of_notMem (by decide)
  have hbefore : '<' ∉ ['a'] := by decide
  have hbrace : '\x7b' ∉ ['a'] := by decide
  have hguarded := tryRender_of_unclosed_guard (t := guardHead.tag) hbefore hbrace
    (Head.scanned_tag (by decide)) (by decide) (by decide) hfails hrest hopen
  have hlooped := tryRender_of_unclosed_guard (t := guardLoopHead.tag) hbefore hbrace
    (Head.scanned_tag (by decide)) (by decide) (by decide) hfails hrest hopen
  have hshown : (standard .bare).interpolated refusingScope "secret".toList =
      .ok "secret".toList := interpolate_of_spanless _ (by decide)
  refine ⟨hguarded.2.mpr (Or.inl (by decide)), ?_⟩
  have htext := hlooped.1 ⟨"x".toList, none, "xs".toList⟩ (by decide)
  rw [hshown] at htext
  exact htext

/-- Text behind an unclosed tag shows although the guard on the tag fails, and goes on failing
whatever the loop on the tag would bind. -/
theorem tryRender_unclosed_guard_ne :
    ((standard .bare).names.guard? guardLoopHead.tag = some "no".toList ∧
      (standard .bare).holds refusingScope "no".toList = .ok false ∧
      ∀ v, (standard .bare).holds (refusingScope.derive "x" v) "no".toList = .ok false) ∧
    guardLoopHead.tag.Scanned ∧
    ((standard .bare).Undirected "secret".toList ∧ Closeless "p".toList "secret".toList) ∧
    (standard .bare).tryRender refusingScope "a<p if=\"no\" for=\"x in xs\">secret" =
      .ok "asecret" ∧ "asecret" ≠ "a" := by
  refine ⟨⟨by decide, by decide, fun v => ?_⟩, Head.scanned_tag (by decide),
    ⟨Undirected.of_notMem (by decide), Closeless.of_notMem (by decide)⟩, by decide +kernel⟩
  have hvalue : (standard .bare).valueOf (refusingScope.derive "x" v) "no".toList =
      .ok (.bool false) := valueOf_of_get? rfl
  rw [holds, hvalue]
  rfl

end Engine

end Stencil
