import Stencil.Text.Search

/-!
Dashes in a row. A space is put into every pair of dashes that is found from the left. Since the
dashes of two such pairs can meet, this is repeated until no two dashes stand side by side; every
space that is put in leaves one place less where they do.
-/
namespace Stencil.Text

def dashes : List Char := ['-', '-']

/-- At how many places two dashes stand side by side. -/
def dashPairs : List Char → Nat
  | c :: d :: s => (if c = '-' ∧ d = '-' then 1 else 0) + dashPairs (d :: s)
  | _ => 0

/-- Puts a space into the pairs of dashes, from the left and without overlap. -/
def partDashes (s : List Char) : List Char :=
  replaceAll dashes (List.cons_ne_nil _ _) ['-', ' ', '-'] s

theorem partDashes_of_cut {s a b : List Char} (h : cut dashes s = some (a, b)) :
    partDashes s = a ++ ['-', ' ', '-'] ++ partDashes b :=
  replaceAll_of_cut _ _ h

theorem partDashes_of_cut_eq_none {s : List Char} (h : cut dashes s = none) : partDashes s = s :=
  replaceAll_of_cut_eq_none _ _ h

/-- Two texts that share the character where they meet. -/
theorem dashPairs_append_cons (a : List Char) (c : Char) (b : List Char) :
    dashPairs (a ++ c :: b) = dashPairs (a ++ [c]) + dashPairs (c :: b) := by
  induction a with
  | nil => simp [dashPairs]
  | cons d a ih =>
    cases a with
    | nil => simp [dashPairs]
    | cons e a =>
      simp only [List.cons_append, dashPairs] at ih ⊢
      omega

theorem dashPairs_dashes (a b : List Char) :
    dashPairs (a ++ dashes ++ b) = dashPairs (a ++ ['-', ' ', '-'] ++ b) + 1 := by
  have htogether : dashPairs (a ++ '-' :: '-' :: b) =
      dashPairs (a ++ ['-']) + (1 + dashPairs ('-' :: b)) := by
    rw [dashPairs_append_cons]
    simp [dashPairs]
  have hparted : dashPairs (a ++ '-' :: ' ' :: '-' :: b) =
      dashPairs (a ++ ['-']) + dashPairs ('-' :: b) := by
    rw [dashPairs_append_cons]
    simp [dashPairs]
  simp only [dashes, List.append_assoc, List.cons_append, List.nil_append]
  omega

/-- Every space that is put in takes a pair away, whatever stands in front. -/
theorem exists_spaces (s : List Char) :
    ∃ k, (partDashes s).length = s.length + k ∧
      (∀ front, dashPairs (front ++ s) = dashPairs (front ++ partDashes s) + k) ∧
      (containsPart dashes s = true → 0 < k) := by
  match h : cut dashes s with
  | none =>
    rw [partDashes_of_cut_eq_none h]
    refine ⟨0, rfl, fun front => rfl, ?_⟩
    intro hcontains
    simp [containsPart, h] at hcontains
  | some (a, b) =>
    have hlt := length_lt_of_cut (List.cons_ne_nil _ _) h
    obtain ⟨k, hlength, hpairs, -⟩ := exists_spaces b
    have hs : s = a ++ dashes ++ b := cut_eq_some h
    rw [partDashes_of_cut h]
    refine ⟨k + 1, ?_, ?_, fun _ => Nat.succ_pos k⟩
    · simp only [hs, dashes, List.length_append, List.length_cons, List.length_nil, hlength]
      omega
    · intro front
      have hpair := dashPairs_dashes (front ++ a) b
      have hrest := hpairs (front ++ a ++ ['-', ' ', '-'])
      rw [hs]
      simp only [List.append_assoc] at hpair hrest ⊢
      omega
termination_by s.length

theorem length_add_dashPairs (s : List Char) :
    (partDashes s).length + dashPairs (partDashes s) = s.length + dashPairs s := by
  obtain ⟨k, hlength, hpairs, -⟩ := exists_spaces s
  have hself : dashPairs s = dashPairs (partDashes s) + k := hpairs []
  omega

theorem dashPairs_partDashes_lt {s : List Char} (h : containsPart dashes s = true) :
    dashPairs (partDashes s) < dashPairs s := by
  obtain ⟨k, -, hpairs, hpos⟩ := exists_spaces s
  have hself : dashPairs s = dashPairs (partDashes s) + k := hpairs []
  have hk := hpos h
  omega

/-- Puts a space between dashes in a row. -/
def spaceDashes (s : List Char) : List Char :=
  if containsPart dashes s then spaceDashes (partDashes s) else s
termination_by dashPairs s
decreasing_by exact dashPairs_partDashes_lt (by assumption)

end Stencil.Text
