import Stencil.Library.Strings
import Stencil.Proofs.Cutting

/-!
The pieces of a text between separators. Splitting and replacing find the same occurrences, from
the left and without overlap: joining the pieces by another text puts that text in the place of every
separator, and joining them by the separator gives the text back. No piece holds the separator, not
even one that overlaps itself.
-/
namespace Stencil

namespace Text

variable {part s a b p : List Char}

/-- What holds of a text without the part, and of a text if it holds of what stands behind the first
occurrence, holds of every text. -/
theorem cut_induction {motive : List Char → Prop} (hp : part ≠ [])
    (last : ∀ s, cut part s = none → motive s)
    (piece : ∀ s a b, cut part s = some (a, b) → motive b → motive s) (s : List Char) :
    motive s := by
  match h : cut part s with
  | none => exact last s h
  | some (a, b) =>
    have hlt := length_lt_of_cut hp h
    exact piece s a b h (cut_induction hp last piece b)
termination_by s.length

/-! ### Pieces -/

theorem splitFrom_of_cut (hp : part ≠ []) (found : List (List Char))
    (h : cut part s = some (a, b)) :
    splitFrom part hp found s = splitFrom part hp (a :: found) b := by
  rw [splitFrom]
  split
  · next hnone => simp [h] at hnone
  · next hsome =>
    rw [h] at hsome
    obtain ⟨rfl, rfl⟩ := Prod.mk.inj (Option.some.inj hsome)
    rfl

theorem splitFrom_of_cut_eq_none (hp : part ≠ []) (found : List (List Char))
    (h : cut part s = none) : splitFrom part hp found s = (s :: found).reverse := by
  rw [splitFrom]
  split
  · rfl
  · next hsome => simp [h] at hsome

theorem splitOn_of_cut_eq_none (hp : part ≠ []) (h : cut part s = none) :
    splitOn part hp s = [s] :=
  splitFrom_of_cut_eq_none hp [] h

theorem splitFrom_eq_append (hp : part ≠ []) (found : List (List Char)) (s : List Char) :
    splitFrom part hp found s = found.reverse ++ splitOn part hp s := by
  induction s using cut_induction hp generalizing found with
  | last s h =>
    rw [splitFrom_of_cut_eq_none hp found h, splitOn_of_cut_eq_none hp h, List.reverse_cons]
  | piece s a b h ih =>
    rw [splitOn, splitFrom_of_cut hp found h, splitFrom_of_cut hp [] h, ih (a :: found), ih [a],
      List.reverse_cons, List.append_assoc, List.reverse_singleton]

/-- The first piece ends at the first separator, and what follows that is split by itself. -/
theorem splitOn_of_cut (hp : part ≠ []) (h : cut part s = some (a, b)) :
    splitOn part hp s = a :: splitOn part hp b := by
  rw [splitOn, splitFrom_of_cut hp [] h, splitFrom_eq_append]
  rfl

theorem splitOn_ne_nil (hp : part ≠ []) (s : List Char) : splitOn part hp s ≠ [] := by
  cases h : cut part s with
  | none =>
    rw [splitOn_of_cut_eq_none hp h]
    exact List.cons_ne_nil s []
  | some r =>
    rw [splitOn_of_cut hp h]
    exact List.cons_ne_nil r.1 _

/-! ### Joined pieces -/

/-- Joining the pieces by another text replaces the separators. -/
theorem intercalate_splitOn (hp : part ≠ []) (other s : List Char) :
    other.intercalate (splitOn part hp s) = replaceAll part hp other s := by
  induction s using cut_induction hp with
  | last s h =>
    rw [splitOn_of_cut_eq_none hp h, replaceAll_of_cut_eq_none hp other h,
      List.intercalate_singleton]
  | piece s a b h ih =>
    obtain ⟨p, rest, hrest⟩ := List.exists_cons_of_ne_nil (splitOn_ne_nil hp b)
    rw [splitOn_of_cut hp h, replaceAll_of_cut hp other h, ← ih, hrest,
      List.intercalate_cons_cons]

theorem replaceAll_self (hp : part ≠ []) (s : List Char) : replaceAll part hp part s = s := by
  induction s using cut_induction hp with
  | last s h => exact replaceAll_of_cut_eq_none hp part h
  | piece s a b h ih => rw [replaceAll_of_cut hp part h, ih, ← cut_eq_some h]

/-! ### What pieces lack -/

/-- The text in front of the first occurrence lacks the part, even where the part could begin in it
and end in the occurrence. -/
theorem not_infix_of_cut (hp : part ≠ []) (h : cut part s = some (a, b)) : ¬ part <:+: a := by
  rintro ⟨x, y, rfl⟩
  -- an occurrence in front would be found first
  have hs : s = x ++ part ++ (y ++ part ++ b) := by
    rw [cut_eq_some h]
    simp only [List.append_assoc]
  have hle := length_le_of_cut h hs
  have hpos := List.length_pos_iff.mpr hp
  simp only [List.length_append] at hle
  omega

theorem not_infix_of_mem_splitOn (hp : part ≠ []) (h : p ∈ splitOn part hp s) :
    ¬ part <:+: p := by
  induction s using cut_induction hp with
  | last s hcut =>
    rw [splitOn_of_cut_eq_none hp hcut, List.mem_singleton] at h
    rw [h]
    exact cut_eq_none_iff.mp hcut
  | piece s a b hcut ih =>
    rw [splitOn_of_cut hp hcut, List.mem_cons] at h
    rcases h with rfl | hlater
    · exact not_infix_of_cut hp hcut
    · exact ih hlater

end Text

namespace Library.Strings

open Text

variable {sep : String}

theorem split_string (hp : sep.toList ≠ []) (s : String) :
    split [.string s, .string sep] =
      .ok (.seq (((splitOn sep.toList hp s.toList).map String.ofList).map .string)) := by
  rw [List.map_map]
  exact dif_neg hp

theorem replace_string (hp : sep.toList ≠ []) (s t : String) :
    replace [.string s, .string sep, .string t] =
      .ok (.string (String.ofList (replaceAll sep.toList hp t.toList s.toList))) :=
  dif_neg hp

theorem join_strings (pieces : List String) (t : String) :
    join [.seq (pieces.map .string), .string t] = .ok (.string (t.intercalate pieces)) := by
  have htexts : (pieces.map Value.string).map Value.text = pieces := by
    rw [List.map_map]
    exact List.map_id pieces
  exact congrArg (fun texts => Except.ok (Value.string (t.intercalate texts))) htexts

/-- Joining the pieces gives the text with its separators replaced. -/
theorem intercalate_pieces (hp : sep.toList ≠ []) (s t : String) :
    t.intercalate ((splitOn sep.toList hp s.toList).map String.ofList) =
      String.ofList (replaceAll sep.toList hp t.toList s.toList) := by
  have hchars : String.toList ∘ String.ofList = id := funext fun _ => String.toList_ofList
  rw [← String.toList_inj, String.toList_intercalate, String.toList_ofList, List.map_map, hchars,
    List.map_id, intercalate_splitOn]

/-- A text is split at every separator that is not empty; joining the pieces by a text replaces the
separators by it, joining them by the separator gives the text back, and no piece holds the
separator. -/
theorem join_split_eq_replace (hsep : sep ≠ "") (s t : String) :
    ∃ pieces : List String,
      split [.string s, .string sep] = .ok (.seq (pieces.map .string)) ∧
      (∃ r : String, join [.seq (pieces.map .string), .string t] = .ok (.string r) ∧
        replace [.string s, .string sep, .string t] = .ok (.string r)) ∧
      join [.seq (pieces.map .string), .string sep] = .ok (.string s) ∧
      ∀ piece ∈ pieces, ¬ sep.toList <:+: piece.toList := by
  have hp : sep.toList ≠ [] := fun h => hsep (String.toList_eq_nil_iff.mp h)
  refine ⟨_, split_string hp s, ⟨_, ?_, replace_string hp s t⟩, ?_, ?_⟩
  · rw [join_strings, intercalate_pieces hp]
  · rw [join_strings, intercalate_pieces hp, replaceAll_self, String.ofList_toList]
  · intro piece hmem
    obtain ⟨p, hpiece, rfl⟩ := List.mem_map.mp hmem
    rw [String.toList_ofList]
    exact not_infix_of_mem_splitOn hp hpiece

/-- A separator that overlaps itself, at both ends of the text and twice in a row. -/
theorem join_split_eq_replace_overlapping :
    "aa" ≠ "" ∧ ∃ pieces : List String,
      split [.string "aaaaabaa", .string "aa"] = .ok (.seq (pieces.map .string)) ∧
      (∃ r : String, join [.seq (pieces.map .string), .string "-"] = .ok (.string r) ∧
        replace [.string "aaaaabaa", .string "aa", .string "-"] = .ok (.string r)) ∧
      join [.seq (pieces.map .string), .string "aa"] = .ok (.string "aaaaabaa") ∧
      ∀ piece ∈ pieces, ¬ "aa".toList <:+: piece.toList := by
  have hsep : "aa" ≠ "" := by decide
  exact ⟨hsep, join_split_eq_replace hsep "aaaaabaa" "-"⟩

end Library.Strings

end Stencil
