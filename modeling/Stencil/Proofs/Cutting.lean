import Stencil.Text.Search

/-!
The first occurrence of a part in a text. Searching goes character by character, a text in front
that lacks the first character of the part is passed unchanged, and an occurrence stays the first
one whatever is written behind the text.
-/
namespace Stencil.Text

theorem cutFrom_eq_map (part passed s : List Char) :
    cutFrom part passed s = (cut part s).map fun r => (passed.reverse ++ r.1, r.2) := by
  induction s generalizing passed with
  | nil =>
    unfold cut cutFrom
    split <;> simp
  | cons c s ih =>
    unfold cut
    simp only [cutFrom]
    cases behind? part (c :: s) with
    | some after => simp
    | none =>
      rw [ih (c :: passed), ih [c]]
      simp [Function.comp_def]

/-- One step of the search. -/
theorem cut_cons (part : List Char) (c : Char) (s : List Char) :
    cut part (c :: s) =
      match behind? part (c :: s) with
      | some after => some ([], after)
      | none => (cut part s).map fun r => (c :: r.1, r.2) := by
  rw [cut, cutFrom]
  cases behind? part (c :: s) with
  | some after => rfl
  | none => rw [cutFrom_eq_map]; rfl

theorem behind?_eq_none_of_head_ne {c d : Char} (part s : List Char) (h : c ≠ d) :
    behind? (c :: part) (d :: s) = none := by
  simp [behind?, h]

theorem behind?_append_self (part s : List Char) : behind? part (part ++ s) = some s :=
  behind?_eq_some_iff.mpr rfl

/-- A part at the front is its own first occurrence. -/
theorem cut_append_self (part s : List Char) : cut part (part ++ s) = some ([], s) := by
  have hb := behind?_append_self part s
  cases h : part ++ s with
  | nil =>
    obtain ⟨rfl, rfl⟩ := List.append_eq_nil_iff.mp h
    rfl
  | cons c rest =>
    rw [h] at hb
    rw [cut_cons, hb]

/-- A text without the first character of the part is passed. -/
theorem cut_append_of_notMem {c : Char} {part a : List Char} (s : List Char) (h : c ∉ a) :
    cut (c :: part) (a ++ s) = (cut (c :: part) s).map fun r => (a ++ r.1, r.2) := by
  induction a with
  | nil => simp
  | cons d a ih =>
    rw [List.mem_cons, not_or] at h
    obtain ⟨hd, ha⟩ := h
    rw [List.cons_append, cut_cons, behind?_eq_none_of_head_ne _ _ hd, ih ha]
    simp [Function.comp_def]

/-- The part right behind a text without its first character. -/
theorem cut_append_part {c : Char} {part a : List Char} (s : List Char) (h : c ∉ a) :
    cut (c :: part) (a ++ (c :: part ++ s)) = some (a, s) := by
  rw [cut_append_of_notMem _ h, cut_append_self]
  simp

private theorem behind?_append {part s after : List Char} (t : List Char)
    (h : behind? part s = some after) : behind? part (s ++ t) = some (after ++ t) := by
  rw [behind?_eq_some_iff] at h ⊢
  rw [h, List.append_assoc]

private theorem behind?_append_eq_none {part s : List Char} (t : List Char)
    (hlen : part.length ≤ s.length) (h : behind? part s = none) :
    behind? part (s ++ t) = none := by
  cases hb : behind? part (s ++ t) with
  | none => rfl
  | some after =>
    have hs := behind?_eq_some_iff.mp hb
    have hwhole : part <+: s ++ t := ⟨after, hs.symm⟩
    have hp : part <+: s :=
      List.prefix_of_prefix_length_le hwhole (List.prefix_append s t) hlen
    obtain ⟨rest, hrest⟩ := hp
    rw [behind?_eq_some_iff.mpr hrest.symm] at h
    simp at h

/-- What is written behind a text does not move the first occurrence in it. -/
theorem cut_append {part s a b : List Char} (t : List Char) (h : cut part s = some (a, b)) :
    cut part (s ++ t) = some (a, b ++ t) := by
  induction s generalizing a with
  | nil =>
    simp only [cut, cutFrom] at h
    split at h
    · next hp =>
      simp only [List.reverse_nil, Option.some.injEq, Prod.mk.injEq] at h
      obtain ⟨rfl, rfl⟩ := h
      rw [List.isEmpty_iff.mp hp]
      exact cut_append_self [] t
    · simp at h
  | cons c s ih =>
    rw [cut_cons] at h
    rw [List.cons_append, cut_cons]
    cases hb : behind? part (c :: s) with
    | some after =>
      rw [hb] at h
      simp only [Option.some.injEq, Prod.mk.injEq] at h
      obtain ⟨rfl, rfl⟩ := h
      rw [← List.cons_append, behind?_append t hb]
    | none =>
      rw [hb] at h
      obtain ⟨⟨a', b'⟩, hc, he⟩ := Option.map_eq_some_iff.mp h
      simp only [Prod.mk.injEq] at he
      obtain ⟨rfl, rfl⟩ := he
      -- the later occurrence shows that the part is not longer than what is left
      have hlen : part.length ≤ (c :: s).length := by
        rw [cut_eq_some hc]
        simp only [List.length_append, List.length_cons]
        omega
      rw [← List.cons_append, behind?_append_eq_none t hlen hb, ih hc]
      rfl

/-- The first occurrence of a part stands no later than any other. -/
theorem exists_cut_of_append (a part b : List Char) :
    ∃ a' b', cut part (a ++ (part ++ b)) = some (a', b') ∧ b <:+ b' := by
  induction a with
  | nil => exact ⟨[], b, cut_append_self part b, List.suffix_refl b⟩
  | cons c a ih =>
    rw [List.cons_append, cut_cons]
    cases hb : behind? part (c :: (a ++ (part ++ b))) with
    | some after =>
      refine ⟨[], after, rfl, ?_⟩
      have hs := behind?_eq_some_iff.mp hb
      have hafter : after <:+ c :: (a ++ (part ++ b)) := ⟨part, hs.symm⟩
      have hlen := congrArg List.length hs
      simp only [List.length_cons, List.length_append] at hlen
      refine List.suffix_of_suffix_length_le ⟨c :: (a ++ part), by simp⟩ hafter ?_
      omega
    | none =>
      obtain ⟨a', b', hc, hsuffix⟩ := ih
      exact ⟨c :: a', b', by rw [hc]; rfl, hsuffix⟩

theorem cut_eq_none_iff {part s : List Char} : cut part s = none ↔ ¬ part <:+: s := by
  constructor
  · rintro h ⟨a, b, rfl⟩
    obtain ⟨a', b', hcut, -⟩ := exists_cut_of_append a part b
    rw [List.append_assoc, hcut] at h
    cases h
  · intro h
    cases hcut : cut part s with
    | none => rfl
    | some r => exact absurd ⟨r.1, r.2, (cut_eq_some hcut).symm⟩ h

theorem cut_singleton_ne_none_iff {c : Char} {s : List Char} : cut [c] s ≠ none ↔ c ∈ s := by
  rw [ne_eq, cut_eq_none_iff, Decidable.not_not]
  constructor
  · rintro ⟨a, b, rfl⟩
    simp
  · intro hmem
    obtain ⟨a, b, rfl⟩ := List.append_of_mem hmem
    exact ⟨a, b, by simp⟩

/-- No occurrence of the part stands before the one that is found. -/
theorem length_le_of_cut {part s a b x y : List Char} (h : cut part s = some (a, b))
    (hs : s = x ++ part ++ y) : a.length ≤ x.length := by
  obtain ⟨a', b', hcut, hsuffix⟩ := exists_cut_of_append x part y
  rw [← List.append_assoc, ← hs, h] at hcut
  obtain ⟨rfl, rfl⟩ := Prod.mk.inj (Option.some.inj hcut)
  have hlengths := congrArg List.length ((cut_eq_some h).symm.trans hs)
  simp only [List.length_append] at hlengths
  have hle := hsuffix.length_le
  omega

/-- Finding a part depends on nothing behind it. -/
theorem cut_frame {part s a b : List Char} (h : cut part s = some (a, b)) (r : List Char) :
    cut part (a ++ (part ++ r)) = some (a, r) := by
  obtain ⟨a', b', hc, -⟩ := exists_cut_of_append a part []
  have hs := cut_append b hc
  rw [List.append_nil, ← cut_eq_some h, h] at hs
  simp only [Option.some.injEq, Prod.mk.injEq, List.self_eq_append_left] at hs
  obtain ⟨rfl, rfl⟩ := hs
  have hr := cut_append r hc
  rwa [List.append_nil, List.append_assoc] at hr

/-- The text in front of the first occurrence of a character lacks that character. -/
theorem notMem_of_cut {c : Char} {s a b : List Char} (h : cut [c] s = some (a, b)) : c ∉ a := by
  intro hmem
  obtain ⟨x, y, rfl, hx⟩ := List.eq_append_cons_of_mem hmem
  have hs : s = x ++ ([c] ++ (y ++ [c] ++ b)) := by
    rw [cut_eq_some h]
    simp
  have hfirst : cut [c] (x ++ ([c] ++ (y ++ [c] ++ b))) = some (x, y ++ [c] ++ b) :=
    cut_append_part _ hx
  rw [hs, hfirst] at h
  have hlen := congrArg (fun r => (r.map fun p => p.1.length).getD 0) h
  simp at hlen

end Stencil.Text
