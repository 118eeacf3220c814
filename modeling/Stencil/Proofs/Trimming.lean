import Stencil.Text.Blank
import Mathlib.Data.List.DropRight

/-!
Trimming a text. The two ends are cut off independently of each other, so trimming again changes
nothing, and neither do further blanks at the ends.
-/
namespace Stencil.Text

variable {p : Char → Bool} {s : List Char}

theorem dropEndWhile_cons (p : Char → Bool) (c : Char) (s : List Char) :
    dropEndWhile p (c :: s) =
      if dropEndWhile p s = [] ∧ p c = true then [] else c :: dropEndWhile p s := by
  have hend : dropEndWhile p (c :: s) =
      (if (s.reverse.dropWhile p).isEmpty then [c].dropWhile p
        else s.reverse.dropWhile p ++ [c]).reverse := by
    rw [dropEndWhile, List.reverse_cons, List.dropWhile_append]
  rw [hend, dropEndWhile]
  cases hrest : s.reverse.dropWhile p with
  | nil => cases hc : p c <;> simp [hc]
  | cons d t => simp

/-- The two ends of a text are cut off in any order. -/
theorem dropWhile_dropEndWhile (p : Char → Bool) (s : List Char) :
    (dropEndWhile p s).dropWhile p = dropEndWhile p (s.dropWhile p) := by
  induction s with
  | nil => rfl
  | cons c s ih =>
    rw [dropEndWhile_cons]
    cases hc : p c with
    | true =>
      rw [List.dropWhile_cons, hc, if_pos rfl, ← ih]
      by_cases hnil : dropEndWhile p s = []
      · rw [if_pos ⟨hnil, rfl⟩, hnil]
      · rw [if_neg fun h => hnil h.1, List.dropWhile_cons, hc, if_pos rfl]
    | false =>
      have hne : ¬ (dropEndWhile p s = [] ∧ false = true) := fun h => Bool.false_ne_true h.2
      rw [if_neg hne, List.dropWhile_cons, hc, if_neg Bool.false_ne_true, List.dropWhile_cons, hc,
        if_neg Bool.false_ne_true, dropEndWhile_cons, hc, if_neg hne]

theorem trim_eq (s : List Char) : trim s = trimStart (trimEnd s) :=
  (dropWhile_dropEndWhile isBlank s).symm

theorem trimEnd_trim (s : List Char) : trimEnd (trim s) = trim s := List.rdropWhile_idempotent ..

theorem trim_trim (s : List Char) : trim (trim s) = trim s := by
  have hstart : trimStart (trimStart s) = trimStart s := List.dropWhile_idempotent ..
  have hend : trimEnd (trimEnd (trimStart s)) = trimEnd (trimStart s) := trimEnd_trim s
  calc
    _ = trimEnd (trimStart (trimEnd (trimStart s))) := rfl
    _ = trimEnd (trimEnd (trimStart (trimStart s))) :=
      congrArg trimEnd (dropWhile_dropEndWhile isBlank (trimStart s))
    _ = trim s := by rw [hstart, hend, trim]

theorem trimStart_append {a : List Char} (ha : ∀ c ∈ a, isBlank c = true) (s : List Char) :
    trimStart (a ++ s) = trimStart s :=
  List.dropWhile_append_of_pos ha

theorem trimEnd_append {b : List Char} (hb : ∀ c ∈ b, isBlank c = true) (s : List Char) :
    trimEnd (s ++ b) = trimEnd s := by
  have hback : ∀ c ∈ b.reverse, isBlank c = true := fun c hc => hb c (List.mem_reverse.mp hc)
  rw [trimEnd, dropEndWhile, List.reverse_append, List.dropWhile_append_of_pos hback]
  rfl

/-- Blanks on both sides are cut off. -/
theorem trim_append_append {a b : List Char} (ha : ∀ c ∈ a, isBlank c = true)
    (hb : ∀ c ∈ b, isBlank c = true) (s : List Char) : trim (a ++ (s ++ b)) = trim s := by
  rw [trim, trimStart_append ha, ← trim, trim_eq, trimEnd_append hb, ← trim_eq]

theorem trim_spaced (s : List Char) : trim (' ' :: (s ++ [' '])) = trim s := by
  have hblank : ∀ c ∈ [' '], isBlank c = true := List.forall_mem_singleton.mpr (by decide)
  exact trim_append_append hblank hblank s

/-- What trimming cuts off is blank. -/
theorem exists_append_trim_append (s : List Char) :
    ∃ a b, s = a ++ (trim s ++ b) ∧ (∀ c ∈ a, isBlank c = true) ∧ ∀ c ∈ b, isBlank c = true := by
  obtain ⟨b, hsplit, hb⟩ := dropEndWhile_append_self isBlank (trimStart s)
  refine ⟨s.takeWhile isBlank, b, ?_, List.all_eq_true.mp List.all_takeWhile, hb⟩
  rw [trim, trimEnd, ← hsplit, trimStart, List.takeWhile_append_dropWhile]

/-- A text that ends with the end of a trimmed one is trimmed at its end. -/
theorem trimEnd_append_of_trim {t : List Char} (ht : t ≠ []) (htrim : trim t = t)
    (s : List Char) : trimEnd (s ++ t) = s ++ t := by
  have hend := trimEnd_trim t
  rw [htrim] at hend
  refine List.rdropWhile_eq_self_iff.mpr fun hne => ?_
  rw [List.getLast_append_of_ne_nil hne ht]
  exact List.rdropWhile_eq_self_iff.mp hend ht

theorem trim_ne_concat {c : Char} (hc : isBlank c = true) (s t : List Char) :
    trim s ≠ t ++ [c] := by
  intro h
  have hend := trimEnd_trim s
  have hne : t ++ [c] ≠ [] := List.append_ne_nil_of_right_ne_nil t (List.cons_ne_nil c [])
  rw [h] at hend
  have hlast := List.rdropWhile_eq_self_iff.mp hend hne
  rw [List.getLast_concat] at hlast
  exact hlast hc

theorem trim_eq_self (h : ∀ c ∈ s, isBlank c = false) : trim s = s := by
  have hstart : trimStart s = s := by
    rw [trimStart, List.dropWhile_eq_self_iff]
    intro hs hblank
    rw [h _ (List.getElem_mem hs)] at hblank
    cases hblank
  have hend : trimEnd s = s := by
    refine List.rdropWhile_eq_self_iff.mpr fun hs hblank => ?_
    rw [h _ (List.getLast_mem hs)] at hblank
    cases hblank
  rw [trim, hstart, hend]

theorem trimmed_ofList (s : List Char) : trimmed (String.ofList s) = String.ofList (trim s) := by
  rw [trimmed, String.toList_ofList]

end Stencil.Text
