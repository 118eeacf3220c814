import Stencil.Proofs.Head
import Stencil.Proofs.Replacing

/-!
Opening tags that a scan finds. The text of such a tag is scanned as that tag and nothing else, and
what stands behind it is scanned by itself.
-/
namespace Stencil.Markup

open Text

variable {s rest : List Char} {segment : Segment} {t : OpenTag}

theorem exists_readMarkup_of_mem_segmentsFrom {done : List Segment} {plain : List Char}
    (hmem : segment ∈ segmentsFrom done plain s) :
    segment ∈ done ∨ (∃ source, segment = .text source) ∨
      ∃ u rest, readMarkup u = some (segment, rest) := by
  have hadd : ∀ {done : List Segment} {plain : List Char}, segment ∈ addText plain done →
      segment ∈ done ∨ ∃ source, segment = .text source := by
    intro done plain h
    unfold addText at h
    split at h
    · exact Or.inl h
    · rcases List.mem_cons.mp h with rfl | h
      · exact Or.inr ⟨_, rfl⟩
      · exact Or.inl h
  fun_induction segmentsFrom done plain s with
  | case1 done plain =>
    rcases hadd (List.mem_reverse.mp hmem) with h | h
    · exact Or.inl h
    · exact Or.inr (Or.inl h)
  | case2 done plain c s hc other rest h ih =>
    rcases ih hmem with hdone | hrest
    · rcases List.mem_cons.mp hdone with rfl | hdone
      · exact Or.inr (Or.inr ⟨s, rest, h⟩)
      · rcases hadd hdone with hdone | htext
        · exact Or.inl hdone
        · exact Or.inr (Or.inl htext)
    · exact Or.inr hrest
  | case3 done plain c s _ _ ih => exact ih hmem
  | case4 done plain c s _ ih => exact ih hmem

/-- An opening tag starts with a letter behind its first character. -/
theorem readMarkup_eq_openTag {u : List Char} (h : readMarkup u = some (.openTag t, rest)) :
    ∃ c v, u = c :: v ∧ isAsciiLetter c = true ∧ readOpenTag u = some (t, rest) := by
  unfold readMarkup at h
  split at h
  · next s =>
    unfold readComment at h
    split at h <;> simp at h
  · next s =>
    unfold readCloseTag at h
    split at h
    · simp at h
    · split at h <;> simp at h
  · next c v _ _ =>
    split at h
    · next hc =>
      obtain ⟨r, hr, h⟩ := Option.map_eq_some_iff.mp h
      simp only [Prod.mk.injEq, Segment.openTag.injEq] at h
      obtain ⟨rfl, rfl⟩ := h
      exact ⟨c, v, rfl, hc, hr⟩
    · simp at h
  · simp at h

namespace OpenTag

/-- The text of the tag is scanned as this tag and nothing else. -/
def Scanned (t : OpenTag) : Prop := segments t.source = [.openTag t]

instance (t : OpenTag) : Decidable t.Scanned := inferInstanceAs (Decidable (_ = _))

theorem reading_of_mem_segments (h : .openTag t ∈ segments s) :
    ∃ w, t.source = '<' :: w ∧ ∀ y, readMarkup (w ++ y) = some (.openTag t, y) := by
  rcases exists_readMarkup_of_mem_segmentsFrom h with hnil | ⟨source, hsource⟩ | ⟨u, rest, hu⟩
  · simp at hnil
  · simp at hsource
  · obtain ⟨c, v, rfl, hc, hopen⟩ := readMarkup_eq_openTag hu
    obtain ⟨w, hw, hne, hframe⟩ := readOpenTag_frame hopen
    obtain ⟨d, w, rfl⟩ := List.exists_cons_of_ne_nil hne
    obtain ⟨rfl, rfl⟩ := List.cons.inj hw
    refine ⟨c :: w, ?_, fun y => ?_⟩
    · have hsource := readOpenTag_eq_some (hframe [])
      rwa [List.append_nil, List.append_nil] at hsource
    · have hread := hframe y
      rw [List.cons_append] at hread ⊢
      rw [readMarkup_of_letter _ hc, hread]
      rfl

/-- What is found in some text is found in its own text, too. -/
theorem scanned_of_mem_segments (h : .openTag t ∈ segments s) : t.Scanned := by
  obtain ⟨w, hsource, hread⟩ := reading_of_mem_segments h
  have hown := hread []
  rw [List.append_nil] at hown
  rw [Scanned, hsource, segments_markup hown, segments_nil]

theorem Scanned.reading (h : t.Scanned) :
    ∃ w, t.source = '<' :: w ∧ ∀ y, readMarkup (w ++ y) = some (.openTag t, y) :=
  reading_of_mem_segments (s := t.source) (by rw [h]; exact List.mem_singleton_self _)

/-- What stands behind a tag is scanned by itself. -/
theorem Scanned.segments_append (h : t.Scanned) (s : List Char) :
    segments (t.source ++ s) = .openTag t :: segments s := by
  obtain ⟨w, hsource, hread⟩ := h.reading
  rw [hsource, List.cons_append, segments_markup (hread s)]

end OpenTag

theorem Head.scanned_tag {head : Head} (h : head.Readable) : head.tag.Scanned := by
  have hread := readMarkup_source h []
  rw [OpenTag.Scanned, source_tag, source, segments_markup hread, segments_nil]

end Stencil.Markup
