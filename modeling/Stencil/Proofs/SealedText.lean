import Stencil.Proofs.InterpolatedExpression
import Stencil.Proofs.SettledText

/-!
Text that has no part in the markup of a document. In a sealed text every `<` starts markup that
ends in the text, or nothing whatever follows; without directives such a text stays in front of a
document through all passes, and the document is treated as if it stood alone. An expression in
front of a document is evaluated by itself under that condition, and only then: nothing else keeps
its comparison operators from being read as tags.
-/
namespace Stencil

open Directive Markup Render Text

namespace Markup

/-- Every `<` starts a tag or a comment that ends in the text, or no tag and no comment whatever
follows the text; the tags are of a kind. -/
inductive Sealed (P : OpenTag → Prop) : List Char → Prop where
  | nil : Sealed P []
  | char (c : Char) (s : List Char) (hc : c = '<' → ∀ y, readMarkup (s ++ y) = none)
      (hs : Sealed P s) : Sealed P (c :: s)
  | markup (segment : Segment) (s rest : List Char)
      (hread : readMarkup s = some (segment, rest)) (hend : segment.IsComplete)
      (htag : ∀ t, segment = .openTag t → P t) (hs : Sealed P rest) : Sealed P ('<' :: s)

variable {P : OpenTag → Prop} {a b s : List Char}

theorem Sealed.of_notMem (h : '<' ∉ s) : Sealed P s := by
  induction s with
  | nil => exact .nil
  | cons c s ih =>
    rw [List.mem_cons, not_or] at h
    exact .char c s (fun hc => absurd hc.symm h.1) (ih h.2)

theorem Sealed.append (ha : Sealed P a) (hb : Sealed P b) : Sealed P (a ++ b) := by
  induction ha with
  | nil => exact hb
  | char c s hc _ ih =>
    refine .char c (s ++ b) (fun he y => ?_) ih
    rw [List.append_assoc]
    exact hc he (b ++ y)
  | markup segment s rest hread hend htag _ ih =>
    obtain ⟨w, rfl, hframe⟩ := hend.frame hread
    refine .markup segment (w ++ rest ++ b) (rest ++ b) ?_ hend htag ih
    rw [List.append_assoc]
    exact hframe (rest ++ b)

/-- A `<` in front of anything but a letter, a slash and an exclamation mark starts nothing. -/
theorem readMarkup_eq_none {c : Char} (s : List Char) (hletter : isAsciiLetter c = false)
    (hslash : c ≠ '/') (hbang : c ≠ '!') : readMarkup (c :: s) = none := by
  unfold readMarkup
  split
  · next heq => exact absurd (List.cons.inj heq).1 hbang
  · next heq => exact absurd (List.cons.inj heq).1 hslash
  · next heq =>
    obtain ⟨rfl, rfl⟩ := List.cons.inj heq
    rw [hletter, if_neg Bool.false_ne_true]
  · rfl

theorem Sealed.comparison {c : Char} (hletter : isAsciiLetter c = false) (hslash : c ≠ '/')
    (hbang : c ≠ '!') (hs : Sealed P (c :: s)) : Sealed P ('<' :: c :: s) :=
  .char '<' (c :: s) (fun _ y => readMarkup_eq_none (s ++ y) hletter hslash hbang) hs

/-- What is read off segments and passes markup of a kind is added to by sealed text as by plain
text. -/
theorem TextFold.read_sealed {β : Type} (f : TextFold β)
    (hf : ∀ segment : Segment, (∀ t, segment = .openTag t → P t) → ∀ rest,
      f.read (segment :: rest) = f.add segment.source (f.read rest))
    (ha : Sealed P a) (s : List Char) :
    f.read (segments (a ++ s)) = f.add a (f.read (segments s)) := by
  induction ha with
  | nil => exact (f.add_nil _).symm
  | char c a hc _ ih =>
    have hnone : c = '<' → readMarkup (a ++ s) = none := fun he => hc he s
    rw [List.cons_append, segments, segmentsFrom_char [] hnone, f.read_segmentsFrom, ih,
      ← f.add_append]
    rfl
  | markup segment a rest hread hend htag _ ih =>
    obtain ⟨w, rfl, hframe⟩ := hend.frame hread
    have hsource : segment.source ++ rest = '<' :: (w ++ rest) := readMarkup_eq_some hread
    have hwhole : readMarkup (w ++ rest ++ s) = some (segment, rest ++ s) := by
      rw [List.append_assoc]
      exact hframe (rest ++ s)
    rw [List.cons_append, segments_markup hwhole, hf segment htag, ih, ← f.add_append, hsource]

theorem Replacement.apply_sealed {α ε : Type} (r : Replacement α ε) (ha : Sealed P a)
    (hmark : ∀ t, P t → r.mark? t = none) (s : List Char) :
    r.apply (a ++ s) = (r.apply s).map (a ++ ·) := by
  refine r.fold.read_sealed (fun segment htag rest => ?_) ha s
  exact r.run_unmarked (fun t ht => hmark t (htag t ht)) rest

theorem replaceTags_sealed {ε : Type} {edit : OpenTag → Except ε (List Char)} (ha : Sealed P a)
    (hedit : ∀ t, P t → edit t = .ok t.source) (s : List Char) :
    replaceTags edit (a ++ s) = (replaceTags edit s).map (a ++ ·) := by
  rw [replaceTags_eq_concatM, replaceTags_eq_concatM]
  refine (editFold edit).read_sealed (fun segment htag rest => ?_) ha s
  have hsame : segment.edited edit = .ok segment.source := by
    cases segment with
    | openTag t => exact hedit t (htag t rfl)
    | text source | comment source | closeTag _ source => rfl
  show concatM (Segment.edited edit) (segment :: rest) = _
  rw [concatM_cons, hsame]
  rfl

end Markup

namespace Engine

variable {e : Engine} {nested : Renderer} {scope : Scope} {a s source rest : List Char}

/-! ### Sealed text in front of a document -/

/-- A pass keeps sealed text without directives and treats what follows it by itself. -/
theorem pass_sealed (ha : Sealed e.Bare a) (s : List Char) :
    e.pass nested scope (a ++ s) = (e.pass nested scope s).map (a ++ ·) := by
  have hloops := (e.loops nested scope).apply_sealed ha (fun t ht => ht.1)
  have hconditionals := (e.conditionals nested scope).apply_sealed ha (fun t ht => ht.2.1)
  have hbindings : ∀ s, e.bindings scope (a ++ s) = (e.bindings scope s).map (a ++ ·) :=
    replaceTags_sealed ha fun t ht => outputTag_of_targetless ht.2.2
  rw [pass, pass, hloops]
  cases (e.loops nested scope).apply s with
  | error f => rfl
  | ok t =>
    simp only [Except.map, bind, Except.bind]
    rw [hconditionals]
    cases (e.conditionals nested scope).apply t with
    | error f => rfl
    | ok u => exact hbindings u

/-- A text that every pass keeps in front is kept in front by settling. -/
theorem settle_append {pass : List Char → RenderResult (List Char)}
    (h : ∀ s, pass (a ++ s) = (pass s).map (a ++ ·)) (left : Nat) (s : List Char) :
    e.settle pass left (a ++ s) = (e.settle pass left s).map (a ++ ·) := by
  induction left generalizing s with
  | zero =>
    unfold settle
    rw [h]
    cases pass s with
    | error f => rfl
    | ok next =>
      by_cases hnext : next = s
      · simp [Except.map, bind, Except.bind, pure, Except.pure, hnext]
      · simp [Except.map, bind, Except.bind, hnext]
  | succ left ih =>
    cases hs : pass s with
    | error f =>
      have ha : pass (a ++ s) = .error f := by rw [h, hs]; rfl
      rw [e.settle_of_error _ hs, e.settle_of_error _ ha]
      rfl
    | ok next =>
      have ha : pass (a ++ s) = .ok (a ++ next) := by rw [h, hs]; rfl
      by_cases hnext : next = s
      · subst hnext
        rw [e.settle_of_unchanged _ hs, e.settle_of_unchanged _ ha]
        rfl
      · have hne : a ++ next ≠ a ++ s := fun heq => hnext (List.append_cancel_left heq)
        rw [e.settle_of_changed left hs hnext, e.settle_of_changed left ha hne, ih]

theorem renderWithin_sealed (levels : Nat) (ha : Sealed e.Bare a) (s : List Char) :
    e.renderWithin (levels + 1) scope (a ++ s) =
      (e.settle (e.pass (e.renderWithin levels) scope) (max e.config.maxPasses 1) s).bind
        fun settled => e.interpolated scope (a ++ settled) := by
  rw [renderWithin_succ, settle_append (pass_sealed ha)]
  cases e.settle (e.pass (e.renderWithin levels) scope) (max e.config.maxPasses 1) s <;> rfl

/-! ### An expression in front of a document -/

/-- Up to some place of the document, whatever the document or a text in front of it starts has
ended and carries no directive. -/
def Detached (e : Engine) (front s : List Char) : Prop :=
  ∃ u v, s = u ++ v ∧ Sealed e.Bare (front ++ u) ∧ Sealed e.Bare u

theorem fill_embraced (value : List Char → List Char) (hsource : '\x7d' ∉ source)
    (s : List Char) : fill value (embraced source ++ s) = value (trim source) ++ fill value s := by
  have hspaced : '\x7d' ∉ ' ' :: (source ++ [' ']) := by simp [hsource]
  rw [embraced, fill_span value s hspaced, trim_spaced]

theorem interpolated_embraced (henv : e.environment.Total) (hsource : '\x7d' ∉ source)
    (s : List Char) :
    e.interpolated scope (embraced source ++ s) =
      (e.interpolated scope s).map (e.textIn scope (trim source) ++ ·) := by
  rw [interpolated_eq henv, interpolated_eq henv, fill_embraced _ hsource]
  rfl

theorem renderWithin_embraced (levels : Nat) (henv : e.environment.Total)
    (hsource : '\x7d' ∉ source)
    (h : e.Detached (embraced source) rest ∨
      e.Undirected (embraced source ++ rest) ∧ e.Undirected rest) :
    e.renderWithin (levels + 1) scope (embraced source ++ rest) =
      (e.renderWithin (levels + 1) scope rest).map (e.textIn scope (trim source) ++ ·) := by
  rcases h with ⟨u, v, rfl, hfront, hu⟩ | ⟨hwhole, hrest⟩
  · rw [← List.append_assoc, renderWithin_sealed levels hfront, renderWithin_sealed levels hu]
    cases e.settle (e.pass (e.renderWithin levels) scope) (max e.config.maxPasses 1) v with
    | error f => rfl
    | ok settled =>
      show e.interpolated scope (embraced source ++ u ++ settled) = _
      rw [List.append_assoc, interpolated_embraced henv hsource]
      rfl
  · rw [renderWithin_of_undirected levels hwhole, renderWithin_of_undirected levels hrest,
      interpolated_embraced henv hsource]

/-- An expression in front of a document is written as its value, and the document as it is written
without it, if no tag or comment leads from the expression to a directive: what starts in the
expression ends in front of any directive, or neither text has one. -/
theorem tryRender_embraced_append (scope : Scope) (henv : e.environment.Total)
    (hsource : '\x7d' ∉ source)
    (h : e.Detached (embraced source) rest ∨
      e.Undirected (embraced source ++ rest) ∧ e.Undirected rest) :
    ∃ v, Expr.evaluate e.environment scope (String.ofList source) = .ok v ∧
      e.tryRender scope (String.ofList (embraced source ++ rest)) =
        (e.tryRender scope (String.ofList rest)).map (v.text ++ ·) := by
  obtain ⟨v, hv⟩ := henv.exists_evaluate scope (String.ofList source)
  refine ⟨v, hv, ?_⟩
  rw [tryRender_eq_map String.toList_ofList, tryRender_eq_map String.toList_ofList,
    renderWithin_embraced _ henv hsource h, textIn_of_evaluate hv]
  cases e.renderWithin (e.config.maxDepth + 1) scope rest with
  | error f => rfl
  | ok s =>
    show Except.ok (String.ofList (v.text.toList ++ s)) = Except.ok (v.text ++ String.ofList s)
    rw [String.ofList_append, String.ofList_toList]

def comparisonScope : Scope :=
  Scope.root [("a", .int 1), ("b", .int 2), ("yes", .bool true), ("no", .bool false)]

/-- A comparison with a blank, and one that is read as a tag with an end before the directive. -/
theorem tryRender_embraced_append_comparisonScope :
    (standard .bare).tryRender comparisonScope
        (String.ofList (embraced "a < b".toList ++ "<p if=\"no\">x</p>".toList)) = .ok "true" ∧
      (standard .bare).tryRender comparisonScope
        (String.ofList (embraced "a <b".toList ++ "</p><i if=\"yes\">x</i>".toList)) =
          .ok "true</p><i>x</i>" := by
  have hspaced : (standard .bare).Detached (embraced "a < b".toList)
      "<p if=\"no\">x</p>".toList := by
    refine ⟨[], "<p if=\"no\">x</p>".toList, rfl, ?_, .nil⟩
    have hfront : Sealed (standard .bare).Bare "\x7b\x7b a ".toList := .of_notMem (by decide)
    have hrest : Sealed (standard .bare).Bare " b \x7d\x7d".toList := .of_notMem (by decide)
    exact hfront.append (hrest.comparison (by decide) (by decide) (by decide))
  have htight : (standard .bare).Detached (embraced "a <b".toList)
      "</p><i if=\"yes\">x</i>".toList := by
    refine ⟨"</p>".toList, "<i if=\"yes\">x</i>".toList, by decide, ?_, ?_⟩
    · have hfront : Sealed (standard .bare).Bare "\x7b\x7b a ".toList := .of_notMem (by decide)
      have htag : Sealed (standard .bare).Bare "<b \x7d\x7d</p>".toList := by
        refine .markup (.openTag ⟨['b'], [.attr ⟨['\x7d', '\x7d'], none, " \x7d\x7d".toList⟩,
          .stray ['<'], .stray ['/'], .attr ⟨['p'], none, ['p']⟩], ['>'], false⟩)
          "b \x7d\x7d</p>".toList [] (by decide +kernel) trivial (fun t ht => ?_) .nil
        rw [← Segment.openTag.inj ht]
        decide
      exact hfront.append htag
    · exact .markup (.closeTag ['p'] "</p>".toList) "/p>".toList [] (by decide) trivial
        (fun t ht => by simp at ht) .nil
  have hvalue : ∀ source v, Expr.evaluate .bare comparisonScope source = .ok v →
      (Expr.evaluate .bare comparisonScope source).toOption.map Value.text = some "true" →
      v.text = "true" := by
    intro source v hv htext
    rw [hv] at htext
    exact Option.some.inj htext
  obtain ⟨v, hv, hrender⟩ := tryRender_embraced_append comparisonScope
    Expr.Environment.bare_total (by decide) (Or.inl hspaced)
  obtain ⟨w, hw, hrender'⟩ := tryRender_embraced_append comparisonScope
    Expr.Environment.bare_total (by decide) (Or.inl htight)
  have hhidden : (standard .bare).tryRender comparisonScope
      (String.ofList "<p if=\"no\">x</p>".toList) = .ok "" := by decide +kernel
  have hshown : (standard .bare).tryRender comparisonScope
      (String.ofList "</p><i if=\"yes\">x</i>".toList) = .ok "</p><i>x</i>" := by decide +kernel
  rw [hhidden, hvalue _ _ hv (by decide +kernel)] at hrender
  rw [hshown, hvalue _ _ hw (by decide +kernel)] at hrender'
  exact ⟨hrender, hrender'⟩

/-- A comparison that is read as a tag takes the directive behind it for its own, and a directive
inside a string is obeyed. -/
theorem tryRender_embraced_append_ne :
    ((Expr.parse "a <b".toList).toBool = true ∧
      (Expr.evaluate .bare comparisonScope "a <b").toOption.map Value.text = some "true" ∧
      (standard .bare).tryRender comparisonScope "<p if=\"no\">x</p>" = .ok "" ∧
      (standard .bare).tryRender comparisonScope
          (String.ofList (embraced "a <b".toList ++ "<p if=\"no\">x</p>".toList)) =
        .ok "\x7b\x7b a " ∧
      "\x7b\x7b a " ≠ "true" ++ "") ∧
    ((Expr.parse "'<i if=\"no\">'".toList).toBool = true ∧
      (Expr.evaluate .bare comparisonScope "'<i if=\"no\">'").toOption.map Value.text =
        some "<i if=\"no\">" ∧
      (standard .bare).tryRender comparisonScope "" = .ok "" ∧
      (standard .bare).tryRender comparisonScope
          (String.ofList (embraced "'<i if=\"no\">'".toList)) = .ok "\x7b\x7b '" ∧
      "\x7b\x7b '" ≠ "<i if=\"no\">" ++ "") := by
  decide +kernel

/-! ### Documents without directives -/

/-- Text in which no opening tag has a directive and no braces are closed is its own output,
whatever else is wrong with its markup. -/
theorem tryRender_eq_self (e : Engine) (scope : Scope) (template : String)
    (htags : ∀ t, .openTag t ∈ segments template.toList → ∀ a ∈ t.attrs, ¬e.IsDirective a)
    (hspans : ∀ a b c, template.toList ≠ a ++ (openBraces ++ b ++ closeBraces) ++ c) :
    e.tryRender scope template = .ok template := by
  have huntouched : e.Untouched template.toList :=
    ⟨fun t ht => bare_iff.mpr (htags t ht), hspans⟩
  rw [tryRender_eq_map rfl, renderWithin_of_untouched _ huntouched]
  show Except.ok (String.ofList template.toList) = Except.ok template
  rw [String.ofList_toList]

/-- Directives under another prefix, in comments and in tags without an end, stray closing tags and
stray braces. -/
def brokenTemplate : String :=
  "\x7d\x7d</i> a < b <b p-if=\"x\" p-for=x><label for=\"mail\"><!-- <p if=\"no\"> -->" ++
    "<br/>\"'> \x7b\x7b x \x7d <p if=\"no"

theorem tryRender_eq_self_brokenTemplate :
    (∀ t, .openTag t ∈ segments brokenTemplate.toList →
        ∀ a ∈ t.attrs, ¬(standard .bare).IsDirective a) ∧
      Spanless brokenTemplate.toList ∧
      (standard .bare).tryRender .empty brokenTemplate = .ok brokenTemplate := by
  have hundirected : (standard .bare).Undirected brokenTemplate.toList := by decide +kernel
  have hspans : Spanless brokenTemplate.toList := by decide +kernel
  have htags : ∀ t, .openTag t ∈ segments brokenTemplate.toList →
      ∀ a ∈ t.attrs, ¬(standard .bare).IsDirective a :=
    fun t ht => bare_iff.mp (hundirected t ht)
  exact ⟨htags, hspans,
    tryRender_eq_self (standard .bare) .empty brokenTemplate htags hspans⟩

end Engine

end Stencil
