import Stencil.Markup.Segment
import Stencil.Proofs.Cutting

/-!
Reading markup looks no further than the markup goes. A tag or a closed comment at the front of a
text is read in the same way whatever stands behind it; only a comment without an end takes all that
follows.
-/
namespace Stencil.Markup

open Text

/-! ### Runs of characters that end inside the text -/

theorem takeWhile_append_of_mem {p : Char → Bool} {c : Char} {s : List Char} (x : List Char)
    (hc : p c = false) (hmem : c ∈ s) : (s ++ x).takeWhile p = s.takeWhile p := by
  induction s with
  | nil => simp at hmem
  | cons d s ih =>
    rw [List.cons_append, List.takeWhile_cons, List.takeWhile_cons]
    cases hd : p d with
    | false => rfl
    | true =>
      have hne : c ≠ d := by
        rintro rfl
        simp [hc] at hd
      rw [if_pos rfl, if_pos rfl, ih ((List.mem_cons.mp hmem).resolve_left hne)]

theorem dropWhile_append_of_mem {p : Char → Bool} {c : Char} {s : List Char} (x : List Char)
    (hc : p c = false) (hmem : c ∈ s) :
    (s ++ x).dropWhile p = s.dropWhile p ++ x ∧ c ∈ s.dropWhile p := by
  induction s with
  | nil => simp at hmem
  | cons d s ih =>
    rw [List.cons_append, List.dropWhile_cons, List.dropWhile_cons]
    cases hd : p d with
    | false => exact ⟨rfl, hmem⟩
    | true =>
      have hne : c ≠ d := by
        rintro rfl
        simp [hc] at hd
      rw [if_pos rfl, if_pos rfl]
      exact ih ((List.mem_cons.mp hmem).resolve_left hne)

/-! ### Parts of tags -/

theorem isMarkupBlank_gt : isMarkupBlank '>' = false := by decide

theorem isAttrNameChar_gt : isAttrNameChar '>' = false := by decide

theorem isUnquoted_gt : isUnquoted '>' = false := by decide

theorem isNameChar_gt : isNameChar '>' = false := by decide

variable {s w x : List Char}

theorem readBareValue_frame {before value source : List Char} (hs : '>' ∈ s)
    (h : readBareValue before (s ++ x) = .found value source (w ++ x)) (y : List Char) :
    readBareValue before (s ++ y) = .found value source (w ++ y) := by
  obtain ⟨c, s, rfl⟩ := List.exists_cons_of_ne_nil (List.ne_nil_of_mem hs)
  rw [List.cons_append, readBareValue] at h ⊢
  by_cases hquote : (c == '"' || c == '\'') = true
  · rw [if_pos hquote] at h ⊢
    cases hc : cut [c] (s ++ x) with
    | none => simp [hc] at h
    | some r =>
      obtain ⟨a, b⟩ := r
      simp only [hc, ValueReading.found.injEq] at h
      obtain ⟨rfl, rfl, rfl⟩ := h
      have hsx := cut_eq_some hc
      rw [← List.append_assoc, List.append_cancel_right_eq] at hsx
      rw [hsx, List.append_assoc, List.append_assoc, cut_frame hc]
  · rw [if_neg hquote] at h ⊢
    rw [← List.cons_append, takeWhile_append_of_mem _ isUnquoted_gt hs,
      (dropWhile_append_of_mem _ isUnquoted_gt hs).1] at h ⊢
    simp only [ValueReading.found.injEq, List.append_cancel_right_eq] at h
    obtain ⟨rfl, rfl, rfl⟩ := h
    rfl

/-- The value of an attribute is there or not whatever stands behind the end of the tag. -/
theorem readValue_append (hs : '>' ∈ s) :
    (∀ x, readValue (s ++ x) = .absent) ∨
      ∃ before t, '>' ∈ t ∧ ∀ x, readValue (s ++ x) = readBareValue before (t ++ x) := by
  have hdrop := fun x => dropWhile_append_of_mem (c := '>') x isMarkupBlank_gt hs
  have htake := fun x => takeWhile_append_of_mem (c := '>') x isMarkupBlank_gt hs
  obtain ⟨c, t, ht⟩ := List.exists_cons_of_ne_nil (List.ne_nil_of_mem (hdrop []).2)
  by_cases hc : c = '='
  · subst hc
    have hmem : '>' ∈ t := by
      have hgt := (hdrop []).2
      rw [ht, List.mem_cons] at hgt
      exact hgt.resolve_left (by decide)
    refine Or.inr ⟨s.takeWhile isMarkupBlank ++ '=' :: t.takeWhile isMarkupBlank,
      t.dropWhile isMarkupBlank, (dropWhile_append_of_mem [] isMarkupBlank_gt hmem).2, fun x => ?_⟩
    rw [readValue, (hdrop x).1, ht, List.cons_append]
    simp only [htake, takeWhile_append_of_mem x isMarkupBlank_gt hmem,
      (dropWhile_append_of_mem x isMarkupBlank_gt hmem).1]
  · refine Or.inl fun x => ?_
    rw [readValue, (hdrop x).1, ht, List.cons_append]
    split
    · next heq => exact absurd (List.cons.inj heq).1 hc
    · rfl

theorem readAttr_frame {blanks : List Char} {p : Part} (hs : '>' ∈ s)
    (h : readAttr blanks (s ++ x) = .part p (w ++ x)) (y : List Char) :
    readAttr blanks (s ++ y) = .part p (w ++ y) := by
  have hdrop := fun x => dropWhile_append_of_mem (c := '>') x isAttrNameChar_gt hs
  simp only [readAttr, takeWhile_append_of_mem _ isAttrNameChar_gt hs, hdrop] at h ⊢
  rcases readValue_append (hdrop []).2 with habsent | ⟨before, t, ht, hvalue⟩
  · simp only [habsent, TagStep.part.injEq, List.append_cancel_right_eq] at h ⊢
    exact h
  · simp only [hvalue] at h ⊢
    cases hr : readBareValue before (t ++ x) with
    | absent => exact absurd hr (by unfold readBareValue; split <;> (repeat' split) <;> simp)
    | unfinished => simp [hr] at h
    | found value source rest =>
      simp only [hr, TagStep.part.injEq] at h
      obtain ⟨rfl, rfl⟩ := h
      rw [readBareValue_frame ht hr y]

/-- What stands behind blanks is an attribute or a stray character if it does not end the tag. -/
theorem readStep_of_ne {c : Char} {rest : List Char}
    (hs : s.dropWhile isMarkupBlank = c :: rest) (hgt : c ≠ '>')
    (hslash : c = '/' → ∀ r, rest ≠ '>' :: r) :
    readStep s =
      if isAttrNameChar c then readAttr (s.takeWhile isMarkupBlank) (c :: rest)
      else .part (.stray (s.takeWhile isMarkupBlank ++ [c])) rest := by
  rw [readStep, hs]
  split
  · next heq => simp at heq
  · next heq => exact absurd (List.cons.inj heq).1 hgt
  · next heq =>
    obtain ⟨hc, hrest⟩ := List.cons.inj heq
    exact absurd hrest (hslash hc _)
  · next heq =>
    obtain ⟨rfl, rfl⟩ := List.cons.inj heq
    rfl

/-- A part of a tag is read in the same way whatever stands behind the end of the tag. -/
theorem readStep_part_frame {p : Part} (hs : '>' ∈ s) (h : readStep (s ++ x) = .part p (w ++ x))
    (y : List Char) : readStep (s ++ y) = .part p (w ++ y) := by
  have hdrop := fun x => dropWhile_append_of_mem (c := '>') x isMarkupBlank_gt hs
  have htake := fun x => takeWhile_append_of_mem (c := '>') x isMarkupBlank_gt hs
  obtain ⟨c, t, ht⟩ := List.exists_cons_of_ne_nil (List.ne_nil_of_mem (hdrop []).2)
  have hcons (x : List Char) : (s ++ x).dropWhile isMarkupBlank = c :: (t ++ x) := by
    rw [(hdrop x).1, ht, List.cons_append]
  have hgt : c ≠ '>' := by
    rintro rfl
    have hx := hcons x
    simp [readStep, hx] at h
  have hmem : '>' ∈ c :: t := ht ▸ (hdrop []).2
  have hslash (x' : List Char) : c = '/' → ∀ r, t ++ x' ≠ '>' :: r := by
    rintro rfl r hr
    have htmem : '>' ∈ t := (List.mem_cons.mp hmem).resolve_left (by decide)
    obtain ⟨d, t, rfl⟩ := List.exists_cons_of_ne_nil (List.ne_nil_of_mem htmem)
    obtain ⟨rfl, -⟩ := List.cons.inj hr
    have hx := hcons x
    simp [readStep, hx] at h
  rw [readStep_of_ne (hcons x) hgt (hslash x), htake] at h
  rw [readStep_of_ne (hcons y) hgt (hslash y), htake]
  by_cases hc : isAttrNameChar c = true
  · rw [if_pos hc, ← List.cons_append] at h ⊢
    exact readAttr_frame hmem h y
  · rw [if_neg hc] at h ⊢
    simp only [TagStep.part.injEq, List.append_cancel_right_eq] at h ⊢
    exact h

theorem readStep_tail_frame {u source rest : List Char} {selfClosing : Bool}
    (h : readStep u = .tail source selfClosing rest) :
    '>' ∈ source ∧ ∀ y, readStep (source ++ y) = .tail source selfClosing y := by
  have hblank : ∀ c ∈ u.takeWhile isMarkupBlank, isMarkupBlank c = true :=
    fun c hc => List.all_eq_true.mp (List.all_takeWhile (p := isMarkupBlank) (l := u)) c hc
  have hgt : isMarkupBlank '>' = false := by decide
  have hslash : isMarkupBlank '/' = false := by decide
  rw [readStep] at h
  split at h
  · simp at h
  · simp only [TagStep.tail.injEq] at h
    obtain ⟨rfl, rfl, -⟩ := h
    refine ⟨by simp, fun y => ?_⟩
    rw [readStep, List.append_assoc, List.takeWhile_append_of_pos hblank,
      List.dropWhile_append_of_pos hblank]
    simp [hgt]
  · simp only [TagStep.tail.injEq] at h
    obtain ⟨rfl, rfl, -⟩ := h
    refine ⟨by simp, fun y => ?_⟩
    rw [readStep, List.append_assoc, List.takeWhile_append_of_pos hblank,
      List.dropWhile_append_of_pos hblank]
    simp [hslash]
  · split at h
    · unfold readAttr at h
      dsimp only at h
      split at h <;> simp at h
    · simp at h

/-! ### Tags and comments -/

theorem readPartsFrom_part {s rest : List Char} {p : Part} (name : List Char) (done : List Part)
    (h : readStep s = .part p rest) :
    readPartsFrom name done s = readPartsFrom name (p :: done) rest := by
  rw [readPartsFrom]
  split
  · next hp =>
    rw [h] at hp
    simp only [TagStep.part.injEq] at hp
    obtain ⟨rfl, rfl⟩ := hp
    rfl
  · next hp => simp [h] at hp
  · next hp => simp [h] at hp

theorem readPartsFrom_tail {s source rest : List Char} {selfClosing : Bool} (name : List Char)
    (done : List Part) (h : readStep s = .tail source selfClosing rest) :
    readPartsFrom name done s = some (⟨name, done.reverse, source, selfClosing⟩, rest) := by
  rw [readPartsFrom]
  split
  · next hp => simp [h] at hp
  · next hp =>
    rw [h] at hp
    simp only [TagStep.tail.injEq] at hp
    obtain ⟨rfl, rfl, rfl⟩ := hp
    rfl
  · next hp => simp [h] at hp

/-- A tag that ends is read in the same way whatever stands behind it. -/
theorem readPartsFrom_frame {name u rest : List Char} {done : List Part} {t : OpenTag}
    (h : readPartsFrom name done u = some (t, rest)) :
    ∃ w, u = w ++ rest ∧ '>' ∈ w ∧ ∀ y, readPartsFrom name done (w ++ y) = some (t, y) := by
  fun_induction readPartsFrom name done u with
  | case1 done u p rest' hp ih =>
    obtain ⟨w, rfl, hw, hframe⟩ := ih h
    have hu : u = (p.source ++ w) ++ rest := by
      rw [List.append_assoc, (readStep_part hp).1]
    have hmem : '>' ∈ p.source ++ w := List.mem_append_right _ hw
    refine ⟨p.source ++ w, hu, hmem, fun y => ?_⟩
    rw [hu] at hp
    rw [readPartsFrom_part name done (readStep_part_frame hmem hp y), hframe]
  | case2 done u source selfClosing rest' hp =>
    simp only [Option.some.injEq, Prod.mk.injEq] at h
    obtain ⟨rfl, rfl⟩ := h
    obtain ⟨hmem, hframe⟩ := readStep_tail_frame hp
    exact ⟨source, (readStep_tail hp).symm, hmem, fun y => readPartsFrom_tail name done (hframe y)⟩
  | case3 => simp at h

theorem readOpenTag_frame {u rest : List Char} {t : OpenTag}
    (h : readOpenTag u = some (t, rest)) :
    ∃ w, u = w ++ rest ∧ w ≠ [] ∧ ∀ y, readOpenTag (w ++ y) = some (t, y) := by
  obtain ⟨w, hw, hmem, hframe⟩ := readPartsFrom_frame h
  have hu : u = (u.takeWhile isNameChar ++ w) ++ rest := by
    rw [List.append_assoc, ← hw, List.takeWhile_append_dropWhile]
  generalize hv : u.takeWhile isNameChar ++ w = v at hu
  have hgt : '>' ∈ v := hv ▸ List.mem_append_right _ hmem
  have hdrop := fun y => (dropWhile_append_of_mem y isNameChar_gt hgt).1
  have hrest : v.dropWhile isNameChar = w := by
    rw [hu, hdrop, List.append_cancel_right_eq] at hw
    exact hw
  refine ⟨v, hu, List.ne_nil_of_mem hgt, fun y => ?_⟩
  rw [hu, takeWhile_append_of_mem rest isNameChar_gt hgt] at hframe
  rw [readOpenTag, takeWhile_append_of_mem y isNameChar_gt hgt, hdrop, hrest, hframe]

theorem readCloseTag_frame {u rest : List Char} {segment : Segment}
    (h : readCloseTag u = some (segment, rest)) :
    ∃ w, u = w ++ rest ∧ ∀ y, readCloseTag (w ++ y) = some (segment, y) := by
  unfold readCloseTag at h
  split at h
  · simp at h
  · next hname =>
    split at h
    · next content rest' hc =>
      simp only [Option.some.injEq, Prod.mk.injEq] at h
      obtain ⟨rfl, rfl⟩ := h
      have hgt : '>' ∈ content ++ ['>'] := by simp
      have hu := cut_eq_some hc
      refine ⟨content ++ ['>'], hu, fun y => ?_⟩
      rw [hu, takeWhile_append_of_mem _ isNameChar_gt hgt] at hname ⊢
      rw [readCloseTag, takeWhile_append_of_mem _ isNameChar_gt hgt, if_neg hname,
        List.append_assoc, cut_frame hc y]
    · simp at h

theorem readMarkup_of_letter {c : Char} (s : List Char) (hc : isAsciiLetter c = true) :
    readMarkup (c :: s) = (readOpenTag (c :: s)).map fun r => (.openTag r.1, r.2) := by
  rw [readMarkup]
  · rw [if_pos hc]
  · rintro s' rfl
    simp [isAsciiLetter] at hc
  · rintro rfl
    simp [isAsciiLetter] at hc

/-- Markup is read in the same way whatever stands behind it, unless it is a comment without an
end. -/
theorem readMarkup_frame {u rest : List Char} {segment : Segment}
    (h : readMarkup u = some (segment, rest)) :
    (∃ w, u = w ++ rest ∧ ∀ y, readMarkup (w ++ y) = some (segment, y)) ∨
      (∃ s, segment = .comment (commentStart ++ s) ∧ cut commentEnd s = none) ∧
        rest = [] ∧ ∀ y, readMarkup (u ++ y) ≠ none := by
  unfold readMarkup at h
  split at h
  · next s =>
    simp only [Option.some.injEq] at h
    unfold readComment at h
    split at h
    · next content rest' hc =>
      simp only [Prod.mk.injEq] at h
      obtain ⟨rfl, rfl⟩ := h
      refine Or.inl ⟨'!' :: '-' :: '-' :: (content ++ commentEnd), ?_, fun y => ?_⟩
      · rw [cut_eq_some hc]
        simp
      · simp only [List.cons_append, List.append_assoc, readMarkup, readComment, cut_frame hc y]
    · next hc =>
      simp only [Prod.mk.injEq] at h
      refine Or.inr ⟨⟨s, h.1.symm, hc⟩, h.2.symm, fun y => ?_⟩
      simp [readMarkup]
  · next s =>
    obtain ⟨w, rfl, hframe⟩ := readCloseTag_frame h
    refine Or.inl ⟨'/' :: w, rfl, fun y => ?_⟩
    rw [List.cons_append, readMarkup, hframe]
  · next c s hcomment hslash =>
    split at h
    · next hc =>
      obtain ⟨⟨t, rest'⟩, hr, h⟩ := Option.map_eq_some_iff.mp h
      simp only [Prod.mk.injEq] at h
      obtain ⟨rfl, rfl⟩ := h
      obtain ⟨w, hw, hne, hframe⟩ := readOpenTag_frame hr
      obtain ⟨d, w, rfl⟩ := List.exists_cons_of_ne_nil hne
      obtain ⟨rfl, rfl⟩ := List.cons.inj hw
      refine Or.inl ⟨c :: w, rfl, fun y => ?_⟩
      have hopen : readOpenTag (c :: (w ++ y)) = some (t, y) := hframe y
      rw [List.cons_append, readMarkup_of_letter _ hc, hopen]
      rfl
    · simp at h
  · simp at h

theorem readMarkup_append_ne_none {u : List Char} (h : readMarkup u ≠ none) (y : List Char) :
    readMarkup (u ++ y) ≠ none := by
  obtain ⟨⟨segment, rest⟩, hr⟩ := Option.ne_none_iff_exists'.mp h
  rcases readMarkup_frame hr with ⟨w, rfl, hframe⟩ | ⟨-, -, hsome⟩
  · rw [List.append_assoc, hframe]
    simp
  · exact hsome y

/-- Markup that ends inside a text is read in the same way without what follows the text. -/
theorem readMarkup_of_append {u r y : List Char} {segment : Segment} (hy : y ≠ [])
    (h : readMarkup (u ++ y) = some (segment, r ++ y)) : readMarkup u = some (segment, r) := by
  rcases readMarkup_frame h with ⟨w, hw, hframe⟩ | ⟨-, hnil, -⟩
  · rw [← List.append_assoc, List.append_cancel_right_eq] at hw
    rw [hw, hframe]
  · exact absurd (List.append_eq_nil_iff.mp hnil).2 hy

end Stencil.Markup
