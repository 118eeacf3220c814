import Stencil.Proofs.Locality
import Stencil.Proofs.Replacing

/-!
Cutting a text between two of its segments. No comment or tag in front of the cut needs what stands
behind it, since markup that reaches past the cut would have taken the next segment along. So both
parts of the text have the segments that they had in the whole.
-/
namespace Stencil.Markup

open Text

theorem segmentsFrom_nil (plain : List Char) :
    segmentsFrom [] plain [] = (addText plain []).reverse := by
  rw [segmentsFrom]

theorem length_addText_le (plain : List Char) : (addText plain []).reverse.length ≤ 1 := by
  unfold addText
  split <;> simp

/-- Plain text in front of segments is one of them, if anything, so no cut goes through it. -/
theorem exists_of_addText_append_eq {plain : List Char} {l a b : List Segment} (ha : a ≠ [])
    (h : (addText plain []).reverse ++ l = a ++ b) :
    ∃ a', a = (addText plain []).reverse ++ a' ∧ l = a' ++ b := by
  rcases List.append_eq_append_iff.mp h with hbehind | ⟨c, hfront, hb⟩
  · exact hbehind
  · have hshort := length_addText_le plain
    have hpos := List.length_pos_iff.mpr ha
    have hlength := congrArg List.length hfront
    rw [List.length_append] at hlength
    obtain rfl : c = [] := List.length_eq_zero_iff.mp (by omega)
    exact ⟨[], by rw [hfront, List.append_nil, List.append_nil], hb.symm⟩

/-- Markup in front of a cut is read from what stands before the cut alone. -/
theorem exists_readMarkup_of_append {u v w : List Char} {segment : Segment}
    (h : readMarkup u = some (segment, v ++ w)) :
    ∃ u', u = u' ++ w ∧ readMarkup u' = some (segment, v) := by
  have hsource := readMarkup_eq_some h
  obtain ⟨c, x, hx⟩ := List.exists_cons_of_ne_nil (source_ne_nil_of_readMarkup h)
  rw [hx, List.cons_append, List.cons.injEq] at hsource
  have hu : u = x ++ v ++ w := by rw [← hsource.2, List.append_assoc]
  by_cases hw : w = []
  · subst hw
    rw [List.append_nil] at h
    exact ⟨u, (List.append_nil u).symm, h⟩
  · rw [hu] at h
    exact ⟨x ++ v, hu, readMarkup_of_append hw h⟩

/-- Induction along the reading of a text with plain text in front: a character that stays plain, or
a comment or tag. -/
@[elab_as_elim]
theorem segmentsFrom_induction {motive : List Char → List Char → Prop}
    (nil : ∀ plain, motive plain [])
    (char : ∀ plain c s, (c = '<' → readMarkup s = none) → motive (c :: plain) s →
      motive plain (c :: s))
    (markup : ∀ plain s segment rest, readMarkup s = some (segment, rest) → motive [] rest →
      motive plain ('<' :: s))
    (plain s : List Char) : motive plain s := by
  match s with
  | [] => exact nil plain
  | c :: s =>
    by_cases hc : c = '<' → readMarkup s = none
    · exact char plain c s hc (segmentsFrom_induction nil char markup (c :: plain) s)
    · obtain ⟨rfl, hm⟩ := Classical.not_imp.mp hc
      obtain ⟨⟨segment, rest⟩, hm⟩ := Option.ne_none_iff_exists'.mp hm
      have hle := length_le_of_readMarkup hm
      exact markup plain s segment rest hm (segmentsFrom_induction nil char markup [] rest)
termination_by s.length

theorem exists_split_of_segmentsFrom {plain s : List Char} {a b : List Segment} (ha : a ≠ [])
    (h : segmentsFrom [] plain s = a ++ b) :
    ∃ front back, s = front ++ back ∧ segmentsFrom [] plain front = a ∧ segments back = b := by
  induction plain, s using segmentsFrom_induction generalizing a with
  | nil plain =>
    rw [segmentsFrom_nil, ← List.append_nil (addText plain []).reverse] at h
    obtain ⟨a', rfl, hrest⟩ := exists_of_addText_append_eq ha h
    obtain ⟨rfl, rfl⟩ := List.append_eq_nil_iff.mp hrest.symm
    exact ⟨[], [], rfl, by rw [segmentsFrom_nil, List.append_nil], segments_nil⟩
  | char plain c s hc ih =>
    rw [segmentsFrom_char plain hc] at h
    obtain ⟨front, back, rfl, hfront, hback⟩ := ih ha h
    have hc' : c = '<' → readMarkup front = none := by
      intro heq
      cases hm : readMarkup front with
      | none => rfl
      | some r => exact absurd (hc heq) (readMarkup_append_ne_none (by simp [hm]) back)
    exact ⟨c :: front, back, rfl, by rw [segmentsFrom_char plain hc', hfront], hback⟩
  | markup plain s segment rest hm ih =>
    rw [segmentsFrom_markup plain hm] at h
    obtain ⟨a', rfl, hrest⟩ := exists_of_addText_append_eq ha h
    cases a' with
    | nil =>
      refine ⟨[], '<' :: s, rfl, by rw [segmentsFrom_nil, List.append_nil], ?_⟩
      rw [segments_markup hm]
      exact hrest
    | cons first a' =>
      rw [List.cons_append] at hrest
      obtain ⟨rfl, hbehind⟩ := List.cons.inj hrest
      obtain ⟨front, back, hsplit, hfront, hback⟩ :
          ∃ front back, rest = front ++ back ∧ segments front = a' ∧ segments back = b := by
        by_cases ha' : a' = []
        · subst ha'
          exact ⟨[], rest, rfl, segments_nil, hbehind⟩
        · exact ih ha' hbehind
      rw [hsplit] at hm
      obtain ⟨u, rfl, hu⟩ := exists_readMarkup_of_append hm
      exact ⟨'<' :: u, back, rfl, by rw [segmentsFrom_markup plain hu, hfront], hback⟩

/-- The parts of a text in front of and behind any boundary of its segments have the segments that
they had in the whole. -/
theorem segments_of_append {s : List Char} {a b : List Segment} (h : segments s = a ++ b) :
    segments (sources a) = a ∧ segments (sources b) = b := by
  by_cases ha : a = []
  · subst ha
    rw [List.nil_append] at h
    rw [← h, sources_segments]
    exact ⟨segments_nil, rfl⟩
  · obtain ⟨front, back, -, rfl, rfl⟩ := exists_split_of_segmentsFrom ha h
    have hfront : sources (segmentsFrom [] [] front) = front := sources_segments front
    rw [hfront, sources_segments]
    exact ⟨rfl, rfl⟩

theorem source_ne_nil_of_mem_addText {plain : List Char} {segment : Segment}
    (h : segment ∈ (addText plain []).reverse) : segment.source ≠ [] := by
  unfold addText at h
  split at h
  · simp at h
  · next hplain =>
    obtain rfl := List.mem_singleton.mp h
    simpa [Segment.source] using hplain

theorem source_ne_nil_of_mem_segmentsFrom {plain s : List Char} {segment : Segment}
    (h : segment ∈ segmentsFrom [] plain s) : segment.source ≠ [] := by
  induction plain, s using segmentsFrom_induction with
  | nil plain =>
    rw [segmentsFrom_nil] at h
    exact source_ne_nil_of_mem_addText h
  | char plain c s hc ih =>
    rw [segmentsFrom_char plain hc] at h
    exact ih h
  | markup plain s markup rest hm ih =>
    rw [segmentsFrom_markup plain hm, List.mem_append, List.mem_cons] at h
    rcases h with hfront | rfl | hrest
    · exact source_ne_nil_of_mem_addText hfront
    · exact source_ne_nil_of_readMarkup hm
    · exact ih hrest

/-- No segment of a text is empty. -/
theorem source_ne_nil_of_mem_segments {s : List Char} {segment : Segment}
    (h : segment ∈ segments s) : segment.source ≠ [] :=
  source_ne_nil_of_mem_segmentsFrom h

end Stencil.Markup
