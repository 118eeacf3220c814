/-!
Searching text for a part: the first occurrence, the pieces between occurrences and replacement.
Occurrences are found from the left and never overlap.
-/
namespace Stencil.Text

/-- What follows a part that the text starts with. -/
def behind? : (part s : List Char) → Option (List Char)
  | [], s => some s
  | _ :: _, [] => none
  | c :: part, d :: s => if c == d then behind? part s else none

/-- The search behind `cut`, with the text already passed, nearest character first. -/
def cutFrom (part passed : List Char) : List Char → Option (List Char × List Char)
  | [] => if part.isEmpty then some (passed.reverse, []) else none
  | c :: rest =>
    match behind? part (c :: rest) with
    | some after => some (passed.reverse, after)
    | none => cutFrom part (c :: passed) rest

/-- The text before and after the first occurrence of `part`. -/
def cut (part s : List Char) : Option (List Char × List Char) := cutFrom part [] s

def containsPart (part s : List Char) : Bool := (cut part s).isSome

theorem behind?_eq_some_iff {part s rest : List Char} :
    behind? part s = some rest ↔ s = part ++ rest := by
  fun_induction behind? part s with
  | case1 s => simp [eq_comm]
  | case2 c part => simp
  | case3 c part d s h ih =>
    rw [ih, beq_iff_eq.mp h]
    simp
  | case4 c part d s h =>
    have hne : d ≠ c := fun e => h (beq_iff_eq.mpr e.symm)
    simp [hne]

theorem cutFrom_eq_some {part passed s a b : List Char} (h : cutFrom part passed s = some (a, b)) :
    passed.reverse ++ s = a ++ part ++ b := by
  induction s generalizing passed with
  | nil =>
    simp only [cutFrom] at h
    split at h
    · next hp => simp_all
    · simp at h
  | cons c s ih =>
    simp only [cutFrom] at h
    split at h
    · next after hp =>
      simp only [Option.some.injEq, Prod.mk.injEq] at h
      obtain ⟨rfl, rfl⟩ := h
      rw [behind?_eq_some_iff.mp hp, List.append_assoc]
    · simpa using ih h

theorem cut_eq_some {part s a b : List Char} (h : cut part s = some (a, b)) :
    s = a ++ part ++ b := by
  simpa using cutFrom_eq_some h

theorem length_lt_of_cut {part s a b : List Char} (hp : part ≠ []) (h : cut part s = some (a, b)) :
    b.length < s.length := by
  have := List.length_pos_iff.mpr hp
  rw [cut_eq_some h]
  simp only [List.length_append]
  omega

/-- The search behind `splitOn`, with the pieces already found, last first. -/
def splitFrom (part : List Char) (hp : part ≠ []) (found : List (List Char)) (s : List Char) :
    List (List Char) :=
  match _h : cut part s with
  | none => (s :: found).reverse
  | some (a, b) => splitFrom part hp (a :: found) b
termination_by s.length
decreasing_by exact length_lt_of_cut hp (by assumption)

/-- The pieces of the text between the occurrences of a part that is not empty. -/
def splitOn (part : List Char) (hp : part ≠ []) (s : List Char) : List (List Char) :=
  splitFrom part hp [] s

/-- The replacement behind `replaceAll`, with the result so far, last character first. -/
def replaceFrom (part : List Char) (hp : part ≠ []) (other : List Char) (done s : List Char) :
    List Char :=
  match _h : cut part s with
  | none => done.reverse ++ s
  | some (a, b) => replaceFrom part hp other (other.reverse ++ (a.reverse ++ done)) b
termination_by s.length
decreasing_by exact length_lt_of_cut hp (by assumption)

/-- Puts a text in the place of every occurrence of a part that is not empty. -/
def replaceAll (part : List Char) (hp : part ≠ []) (other s : List Char) : List Char :=
  replaceFrom part hp other [] s

theorem replaceFrom_of_cut {part s a b : List Char} (hp : part ≠ []) (other done : List Char)
    (h : cut part s = some (a, b)) :
    replaceFrom part hp other done s =
      replaceFrom part hp other (other.reverse ++ (a.reverse ++ done)) b := by
  rw [replaceFrom]
  split
  · next hnone => simp [h] at hnone
  · next hsome =>
    rw [h] at hsome
    simp only [Option.some.injEq, Prod.mk.injEq] at hsome
    obtain ⟨rfl, rfl⟩ := hsome
    rfl

theorem replaceFrom_of_cut_eq_none {part s : List Char} (hp : part ≠ []) (other done : List Char)
    (h : cut part s = none) : replaceFrom part hp other done s = done.reverse ++ s := by
  rw [replaceFrom]
  split
  · rfl
  · next hsome => simp [h] at hsome

theorem replaceFrom_eq_append {part : List Char} (hp : part ≠ []) (other done s : List Char) :
    replaceFrom part hp other done s = done.reverse ++ replaceAll part hp other s := by
  match h : cut part s with
  | none =>
    rw [replaceAll, replaceFrom_of_cut_eq_none hp other done h,
      replaceFrom_of_cut_eq_none hp other [] h]
    rfl
  | some (a, b) =>
    have hlt := length_lt_of_cut hp h
    rw [replaceAll, replaceFrom_of_cut hp other done h, replaceFrom_of_cut hp other [] h,
      replaceFrom_eq_append hp other _ b, replaceFrom_eq_append hp other _ b]
    simp
termination_by s.length

/-- The first occurrence is replaced, and what follows it is treated by itself. -/
theorem replaceAll_of_cut {part s a b : List Char} (hp : part ≠ []) (other : List Char)
    (h : cut part s = some (a, b)) :
    replaceAll part hp other s = a ++ other ++ replaceAll part hp other b := by
  rw [replaceAll, replaceFrom_of_cut hp other [] h, replaceFrom_eq_append]
  simp

theorem replaceAll_of_cut_eq_none {part s : List Char} (hp : part ≠ []) (other : List Char)
    (h : cut part s = none) : replaceAll part hp other s = s :=
  replaceFrom_of_cut_eq_none hp other [] h

/-- The blank-free runs of a text, split at blanks recognised by `p`. -/
def wordsFrom (p : Char → Bool) (found : List (List Char)) (word : List Char) :
    List Char → List (List Char)
  | [] => (if word.isEmpty then found else word.reverse :: found).reverse
  | c :: rest =>
    if p c then wordsFrom p (if word.isEmpty then found else word.reverse :: found) [] rest
    else wordsFrom p found (c :: word) rest

/-- The maximal runs of characters on which `p` fails. -/
def words (p : Char → Bool) (s : List Char) : List (List Char) := wordsFrom p [] [] s

end Stencil.Text
