import Stencil.Directive.Span
import Stencil.Proofs.Concatenation
import Stencil.Proofs.Cutting

/-!
What interpolation does to a text. A text without a complete span stays as it is. A text whose
opening braces all belong to complete spans can be filled in by itself: filling it in and filling in
what follows it are independent.
-/
namespace Stencil.Directive

open Text

/-- No opening braces are followed by closing ones. -/
def Spanless (s : List Char) : Prop := ∀ a b c, s ≠ a ++ (openBraces ++ b ++ closeBraces) ++ c

theorem nextExpression_eq_none_iff {s : List Char} : nextExpression s = none ↔ Spanless s := by
  constructor
  · rintro h a b c rfl
    obtain ⟨before, rest, ho, u, hu⟩ :=
      exists_cut_of_append a openBraces (b ++ (closeBraces ++ c))
    obtain ⟨source, after, hc, -⟩ := exists_cut_of_append (u ++ b) closeBraces c
    have hrest : rest = u ++ b ++ (closeBraces ++ c) := by rw [← hu, List.append_assoc]
    simp only [nextExpression, List.append_assoc, ho, hrest, Option.bind_eq_bind,
      Option.bind_some, Option.pure_def] at h
    rw [← List.append_assoc u, hc] at h
    simp at h
  · intro h
    cases hn : nextExpression s with
    | none => rfl
    | some r => exact absurd (nextExpression_eq_some hn) (h r.1 r.2.1 r.2.2)

instance (s : List Char) : Decidable (Spanless s) :=
  decidable_of_iff _ nextExpression_eq_none_iff

/-- A part of a text without spans has no spans. -/
theorem Spanless.of_append {a s b : List Char} (h : Spanless (a ++ s ++ b)) : Spanless s := by
  rintro x y z rfl
  exact h (a ++ x) y (z ++ b) (by simp)

theorem spanless_of_notMem {s : List Char} (h : '\x7b' ∉ s) : Spanless s := by
  rintro a b c rfl
  simp [openBraces] at h

/-! ### Interpolation span by span -/

theorem spansFrom_eq_append (done : List Span) (s : List Char) :
    spansFrom done s = done.reverse ++ spans s := by
  rw [spans, spansFrom, spansFrom]
  split
  · next before source rest hnext =>
    have hlt := length_lt_of_nextExpression hnext
    rw [spansFrom_eq_append _ rest, spansFrom_eq_append [_, _] rest]
    simp
  · simp
termination_by s.length

theorem spans_eq_of_next {s before source rest : List Char}
    (h : nextExpression s = some (before, source, rest)) :
    spans s = .plain before :: .expression source :: spans rest := by
  rw [spans, spansFrom]
  split
  · next hnext =>
    rw [h] at hnext
    simp only [Option.some.injEq, Prod.mk.injEq] at hnext
    obtain ⟨rfl, rfl, rfl⟩ := hnext
    rw [spansFrom_eq_append]
    rfl
  · next hnext => simp [h] at hnext

theorem spans_eq_of_spanless {s : List Char} (h : Spanless s) : spans s = [.plain s] := by
  rw [spans, spansFrom]
  split
  · next hnext => simp [nextExpression_eq_none_iff.mpr h] at hnext
  · rfl

variable {ε : Type}

/-- The text in the place of a span, if it can be computed. -/
def Span.filled? (value? : List Char → Except ε (List Char)) : Span → Except ε (List Char)
  | .plain s => .ok s
  | .expression source => value? (trim source)

theorem interpolate_eq_concatM (value? : List Char → Except ε (List Char)) (s : List Char) :
    interpolate value? s = concatM (Span.filled? value?) (spans s) := rfl

/-- A text without spans stays as it is. -/
theorem interpolate_of_spanless (value? : List Char → Except ε (List Char)) {s : List Char}
    (h : Spanless s) : interpolate value? s = .ok s := by
  rw [interpolate_eq_concatM, spans_eq_of_spanless h, concatM_cons, concatM_nil]
  simp only [Span.filled?, Except.bind, Except.map, List.append_nil]

/-- The text in the place of a span. -/
def Span.filled (value : List Char → List Char) : Span → List Char
  | .plain s => s
  | .expression source => value (trim source)

/-- A text with a value in the place of every expression. -/
def fill (value : List Char → List Char) (s : List Char) : List Char :=
  (spans s).flatMap (Span.filled value)

/-- Interpolation with values that are always there. -/
theorem interpolate_eq_fill {value? : List Char → Except ε (List Char)}
    {value : List Char → List Char} (h : ∀ source, value? source = .ok (value source))
    (s : List Char) : interpolate value? s = .ok (fill value s) := by
  rw [interpolate_eq_concatM, fill, concatM_eq_ok]
  intro span _
  cases span with
  | plain s => rfl
  | expression source => exact h (trim source)

variable (value : List Char → List Char)

theorem fill_of_next {s before source rest : List Char}
    (h : nextExpression s = some (before, source, rest)) :
    fill value s = before ++ (value (trim source) ++ fill value rest) := by
  rw [fill, spans_eq_of_next h]
  simp [Span.filled, fill]

theorem fill_of_spanless {s : List Char} (h : Spanless s) : fill value s = s := by
  rw [fill, spans_eq_of_spanless h]
  simp [Span.filled]

theorem fill_of_notMem {s : List Char} (h : '\x7b' ∉ s) : fill value s = s :=
  fill_of_spanless value (spanless_of_notMem h)

/-- An opening brace of the text always belongs to a complete span. -/
inductive Spanned : List Char → Prop where
  | nil : Spanned []
  | char (c : Char) (s : List Char) (hc : c ≠ '\x7b') (hs : Spanned s) : Spanned (c :: s)
  | span (source s : List Char) (hsource : '\x7d' ∉ source) (hs : Spanned s) :
      Spanned (openBraces ++ source ++ closeBraces ++ s)

theorem Spanned.of_notMem {s : List Char} (h : '\x7b' ∉ s) : Spanned s := by
  induction s with
  | nil => exact .nil
  | cons c s ih =>
    rw [List.mem_cons, not_or] at h
    exact .char c s (Ne.symm h.1) (ih h.2)

theorem Spanned.expression {source : List Char} (h : '\x7d' ∉ source) :
    Spanned (Span.expression source).source := by
  have hspan := Spanned.span source [] h .nil
  rwa [List.append_nil] at hspan

theorem Spanned.append {a b : List Char} (ha : Spanned a) (hb : Spanned b) : Spanned (a ++ b) := by
  induction ha with
  | nil => exact hb
  | char c s hc _ ih => exact .char c (s ++ b) hc ih
  | span source s hsource _ ih =>
    rw [List.append_assoc _ s b]
    exact .span source (s ++ b) hsource ih

theorem nextExpression_cons {c : Char} (s : List Char) (h : c ≠ '\x7b') :
    nextExpression (c :: s) = (nextExpression s).map fun r => (c :: r.1, r.2) := by
  have hcut : cut openBraces (c :: s) = (cut openBraces s).map fun r => (c :: r.1, r.2) := by
    rw [cut_cons, openBraces, behind?_eq_none_of_head_ne _ _ (Ne.symm h)]
  simp only [nextExpression, hcut, Option.bind_eq_bind, Option.pure_def]
  cases cut openBraces s with
  | none => rfl
  | some r =>
    simp only [Option.map_some, Option.bind_some]
    cases cut closeBraces r.2 <;> rfl

theorem nextExpression_span {source : List Char} (s : List Char) (h : '\x7d' ∉ source) :
    nextExpression (openBraces ++ source ++ closeBraces ++ s) = some ([], source, s) := by
  have hopen : cut openBraces (openBraces ++ source ++ closeBraces ++ s) =
      some ([], source ++ (closeBraces ++ s)) := by
    rw [List.append_assoc, List.append_assoc]
    exact cut_append_self _ _
  have hclose : cut closeBraces (source ++ (closeBraces ++ s)) = some (source, s) :=
    cut_append_part s h
  simp only [nextExpression, hopen, hclose, Option.bind_eq_bind, Option.bind_some,
    Option.pure_def]

/-- Text without opening braces in front starts no span. -/
theorem Spanless.append_left {a s : List Char} (ha : '\x7b' ∉ a) (h : Spanless s) :
    Spanless (a ++ s) := by
  induction a with
  | nil => exact h
  | cons c a ih =>
    rw [List.mem_cons, not_or] at ha
    have hrest := nextExpression_eq_none_iff.mpr (ih ha.2)
    rw [List.cons_append, ← nextExpression_eq_none_iff, nextExpression_cons _ (Ne.symm ha.1),
      hrest]
    rfl

/-- Text without closing braces behind ends no span. -/
theorem Spanless.append_right {s b : List Char} (h : Spanless s) (hb : '\x7d' ∉ b) :
    Spanless (s ++ b) := by
  intro x y z heq
  rcases List.append_eq_append_iff.mp heq with ⟨w, hspan, rfl⟩ | ⟨w, hs, -⟩
  · rcases List.eq_nil_or_concat w with rfl | ⟨w, c, rfl⟩
    · exact h x y [] (by rw [List.append_nil, hspan, List.append_nil])
    · rw [List.concat_eq_append] at hspan
      have hlast : x ++ (openBraces ++ y ++ ['\x7d']) ++ ['\x7d'] = (s ++ w) ++ [c] := by
        rw [List.append_assoc s, ← hspan]
        simp [closeBraces]
      obtain rfl := List.singleton_inj.mp (List.append_inj_right' hlast rfl)
      exact hb (by simp)
  · exact h x y w hs

theorem spans_cons {c : Char} {s : List Char} (h : c ≠ '\x7b') :
    ∃ p rest, spans s = .plain p :: rest ∧ spans (c :: s) = .plain (c :: p) :: rest := by
  cases hn : nextExpression s with
  | none =>
    have hc : nextExpression (c :: s) = none := by rw [nextExpression_cons s h, hn]; rfl
    exact ⟨s, [], spans_eq_of_spanless (nextExpression_eq_none_iff.mp hn),
      spans_eq_of_spanless (nextExpression_eq_none_iff.mp hc)⟩
  | some r =>
    have hc : nextExpression (c :: s) = some (c :: r.1, r.2.1, r.2.2) := by
      rw [nextExpression_cons s h, hn]
      rfl
    exact ⟨r.1, _, spans_eq_of_next hn, spans_eq_of_next hc⟩

theorem interpolate_cons (value? : List Char → Except ε (List Char)) {c : Char} (s : List Char)
    (h : c ≠ '\x7b') : interpolate value? (c :: s) = (interpolate value? s).map (c :: ·) := by
  obtain ⟨p, rest, hs, hcons⟩ := spans_cons (s := s) h
  rw [interpolate_eq_concatM, interpolate_eq_concatM, hs, hcons, concatM_cons, concatM_cons]
  cases concatM (Span.filled? value?) rest <;> rfl

/-- Text without braces in front stays as it is. -/
theorem interpolate_append (value? : List Char → Except ε (List Char)) {a : List Char}
    (s : List Char) (h : '\x7b' ∉ a) :
    interpolate value? (a ++ s) = (interpolate value? s).map (a ++ ·) := by
  induction a with
  | nil => exact (map_nil_append _).symm
  | cons c a ih =>
    rw [List.mem_cons, not_or] at h
    rw [List.cons_append, interpolate_cons value? _ (Ne.symm h.1), ih h.2]
    cases interpolate value? s <;> rfl

/-- A span without braces of its own. -/
def Span.Clean : Span → Prop
  | .plain s => '\x7b' ∉ s
  | .expression source => '\x7d' ∉ source

instance : DecidablePred Span.Clean
  | .plain s => inferInstanceAs (Decidable ('\x7b' ∉ s))
  | .expression source => inferInstanceAs (Decidable ('\x7d' ∉ source))

theorem Spanned.of_spans {s : List Char} (h : ∀ span ∈ spans s, span.Clean) : Spanned s := by
  cases hn : nextExpression s with
  | none =>
    have hplain := spans_eq_of_spanless (nextExpression_eq_none_iff.mp hn)
    exact Spanned.of_notMem (h (.plain s) (by simp [hplain]))
  | some r =>
    obtain ⟨before, source, rest⟩ := r
    have hspans := spans_eq_of_next hn
    have hlt := length_lt_of_nextExpression hn
    have hrest : Spanned rest := Spanned.of_spans fun span hmem => h span (by simp [hspans, hmem])
    have hbefore : '\x7b' ∉ before := h (.plain before) (by simp [hspans])
    have hsource : '\x7d' ∉ source := h (.expression source) (by simp [hspans])
    rw [nextExpression_eq_some hn, List.append_assoc]
    exact (Spanned.of_notMem hbefore).append (.span source rest hsource hrest)
termination_by s.length

theorem spanned_iff {s : List Char} : Spanned s ↔ ∀ span ∈ spans s, span.Clean := by
  refine ⟨fun h => ?_, Spanned.of_spans⟩
  induction h with
  | nil =>
    rw [spans_eq_of_spanless (spanless_of_notMem (by simp))]
    simp [Span.Clean]
  | char c s hc _ ih =>
    obtain ⟨p, rest, hs, hcons⟩ := spans_cons (s := s) hc
    rw [hs] at ih
    rw [hcons]
    intro span hmem
    rcases List.mem_cons.mp hmem with rfl | hrest
    · have hp : '\x7b' ∉ p := ih (.plain p) (List.mem_cons_self ..)
      simp [Span.Clean, Ne.symm hc, hp]
    · exact ih span (List.mem_cons_of_mem _ hrest)
  | span source s hsource _ ih =>
    rw [spans_eq_of_next (nextExpression_span s hsource)]
    intro span hmem
    rcases List.mem_cons.mp hmem with rfl | hmem
    · simp [Span.Clean]
    · rcases List.mem_cons.mp hmem with rfl | hrest
      · exact hsource
      · exact ih span hrest

instance (s : List Char) : Decidable (Spanned s) := decidable_of_iff _ spanned_iff.symm

theorem fill_cons {c : Char} (s : List Char) (h : c ≠ '\x7b') :
    fill value (c :: s) = c :: fill value s := by
  obtain ⟨p, rest, hs, hcons⟩ := spans_cons (s := s) h
  rw [fill, fill, hs, hcons]
  rfl

theorem fill_span {source : List Char} (s : List Char) (h : '\x7d' ∉ source) :
    fill value (openBraces ++ source ++ closeBraces ++ s) =
      value (trim source) ++ fill value s := by
  rw [fill_of_next _ (nextExpression_span s h), List.nil_append]

/-- A text whose opening braces belong to complete spans is filled in by itself. -/
theorem fill_append {a : List Char} (ha : Spanned a) (b : List Char) :
    fill value (a ++ b) = fill value a ++ fill value b := by
  induction ha with
  | nil => rw [List.nil_append, fill_of_notMem value (s := []) (by simp), List.nil_append]
  | char c s hc _ ih => rw [List.cons_append, fill_cons _ _ hc, fill_cons _ _ hc, ih]; rfl
  | span source s hsource _ ih =>
    rw [List.append_assoc _ s, fill_span _ _ hsource, fill_span _ _ hsource, ih,
      List.append_assoc]

/-! ### What is put in -/

/-- The text in the place of an expression. -/
def Span.value? : Span → Option (List Char)
  | .plain _ => none
  | .expression source => some (value (trim source))

/-- The texts in the place of the expressions, in order. -/
def inserted (s : List Char) : List (List Char) := (spans s).filterMap (Span.value? value)

theorem inserted_of_spanless {s : List Char} (h : Spanless s) : inserted value s = [] := by
  rw [inserted, spans_eq_of_spanless h]
  rfl

theorem inserted_of_next {s before source rest : List Char}
    (h : nextExpression s = some (before, source, rest)) :
    inserted value s = value (trim source) :: inserted value rest := by
  rw [inserted, spans_eq_of_next h]
  rfl

theorem inserted_cons {c : Char} (s : List Char) (h : c ≠ '\x7b') :
    inserted value (c :: s) = inserted value s := by
  obtain ⟨p, rest, hs, hcons⟩ := spans_cons (s := s) h
  rw [inserted, inserted, hs, hcons]
  rfl

/-- A character of the result comes from the text or from a value. -/
theorem mem_or_mem_of_mem_fill {c : Char} {s : List Char} (h : c ∈ fill value s) :
    c ∈ s ∨ ∃ v ∈ inserted value s, c ∈ v := by
  obtain ⟨span, hspan, hc⟩ := List.mem_flatMap.mp h
  cases span with
  | plain p =>
    left
    rw [← sources_spans s]
    exact List.mem_flatMap.mpr ⟨.plain p, hspan, hc⟩
  | expression source =>
    exact Or.inr ⟨value (trim source), List.mem_filterMap.mpr ⟨_, hspan, rfl⟩, hc⟩

theorem notMem_fill {c : Char} {s : List Char} (hs : c ∉ s)
    (hv : ∀ v ∈ inserted value s, c ∉ v) : c ∉ fill value s := by
  intro h
  rcases mem_or_mem_of_mem_fill value h with hc | ⟨v, hmem, hc⟩
  · exact hs hc
  · exact hv v hmem hc

/-- No opening brace is left where none is put in. -/
theorem Spanned.notMem_fill {s : List Char} (hs : Spanned s)
    (hv : ∀ v ∈ inserted value s, '\x7b' ∉ v) : '\x7b' ∉ fill value s := by
  induction hs with
  | nil => simp [fill_of_notMem value (s := []) (by simp)]
  | char c s hc _ ih =>
    rw [inserted_cons value s hc] at hv
    rw [fill_cons value s hc, List.mem_cons, not_or]
    exact ⟨Ne.symm hc, ih hv⟩
  | span source s hsource _ ih =>
    rw [inserted_of_next value (nextExpression_span s hsource)] at hv
    rw [fill_span value s hsource, List.mem_append, not_or]
    exact ⟨hv _ (List.mem_cons_self ..), ih fun v h => hv v (List.mem_cons_of_mem _ h)⟩

end Stencil.Directive
