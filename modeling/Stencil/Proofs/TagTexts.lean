import Stencil.Proofs.SpacedTag

/-!
Which texts are read as tags and comments. Behind its name an opening tag is a row of attributes and
of characters that belong to none, up to its end. Where the row could be divided in two ways, an
attribute takes as much as it can, so that a mark of the end inside a value does not end the tag.
-/
namespace Stencil.Markup

open Text

variable {name rest s : List Char} {done : List Part}

/-- A text behind the name of an opening tag in which the tag comes to its end. What stands in front
of the end are attributes and characters that belong to none, each ended by what follows it. -/
inductive ClosesTag : List Char → Prop where
  | ending {blanks : List Char} (hblanks : ∀ c ∈ blanks, isMarkupBlank c = true)
      (rest : List Char) : ClosesTag (blanks ++ '>' :: rest)
  | slash {blanks : List Char} (hblanks : ∀ c ∈ blanks, isMarkupBlank c = true)
      (rest : List Char) : ClosesTag (blanks ++ '/' :: '>' :: rest)
  | attr {a : Attr} {rest : List Char} (ha : a.Spelled) (hends : a.EndsBefore rest)
      (hrest : ClosesTag rest) : ClosesTag (a.source ++ rest)
  | stray {source blanks rest : List Char} {c : Char} (hsource : SpelledStray source blanks c)
      (hends : strayEndsBefore source rest) (hrest : ClosesTag rest) : ClosesTag (source ++ rest)

/-- What stands behind the first character of a comment or a tag: the rest of the start of a
comment, a slash and a name with an end of a tag somewhere behind them, or a name that starts with a
letter, and a text behind it in which the tag comes to its end. -/
inductive StartsMarkup : List Char → Prop where
  | comment (rest : List Char) : StartsMarkup ('!' :: '-' :: '-' :: rest)
  | closeTag {c : Char} {rest : List Char} (hc : isNameChar c = true) (hend : '>' ∈ rest) :
      StartsMarkup ('/' :: c :: rest)
  | openTag {c : Char} {name rest : List Char} (hc : isAsciiLetter c = true)
      (hname : ∀ d ∈ name, isNameChar d = true) (hends : rest.takeWhile isNameChar = [])
      (hrest : ClosesTag rest) : StartsMarkup (c :: (name ++ rest))

/-! ### Opening tags -/

theorem ClosesTag.ne_nil (h : ClosesTag s) : s ≠ [] := by
  induction h with
  | ending _ rest | slash _ rest => simp
  | attr _ _ _ ih | stray _ _ _ ih => exact List.append_ne_nil_of_right_ne_nil _ ih

theorem ClosesTag.readPartsFrom_ne_none (h : ClosesTag s) (name : List Char) (done : List Part) :
    readPartsFrom name done s ≠ none := by
  induction h generalizing done with
  | ending hblanks rest =>
    rw [readPartsFrom_tail name done (readStep_blanks_end hblanks rest)]
    exact Option.some_ne_none _
  | slash hblanks rest =>
    rw [readPartsFrom_tail name done (readStep_blanks_slash hblanks rest)]
    exact Option.some_ne_none _
  | attr ha hends hrest ih =>
    rw [readPartsFrom_part name done (ha.readStep hrest.ne_nil hends)]
    exact ih _
  | stray hsource hends hrest ih =>
    rw [readPartsFrom_part name done (hsource.readStep hends)]
    exact ih _

theorem closesTag_of_readPartsFrom (h : readPartsFrom name done s ≠ none) : ClosesTag s := by
  fun_induction readPartsFrom name done s with
  | case1 done s p rest hp ih =>
    rw [← (readStep_part hp).1]
    cases p with
    | attr a =>
      obtain ⟨hspelled, hends⟩ := spelled_of_readStep hp
      exact .attr hspelled hends (ih h)
    | stray source =>
      obtain ⟨blanks, c, hsource⟩ := spelledStray_of_readStep hp
      by_cases hends : strayEndsBefore source rest
      · exact .stray hsource hends (ih h)
      · -- a slash in front of the end is not read as a part
        obtain ⟨r, -, htail⟩ := hsource.readStep_of_slash hends
        have hread : readStep (source ++ rest) = .part (.stray source) rest :=
          (congrArg readStep (readStep_part hp).1).trans hp
        rw [hread] at htail
        cases htail
  | case2 done s source selfClosing rest hp =>
    rw [← readStep_tail hp]
    obtain ⟨blanks, hblanks, rfl | rfl⟩ := readStep_tail_cases hp
    · rw [List.append_assoc]
      exact .ending hblanks rest
    · rw [List.append_assoc]
      exact .slash hblanks rest
  | case3 => exact absurd rfl h

/-! ### Comments and tags -/

theorem readCloseTag_ne_none_iff {c : Char} :
    readCloseTag (c :: s) ≠ none ↔ isNameChar c = true ∧ '>' ∈ s := by
  cases hc : isNameChar c with
  | false => simp [readCloseTag, hc]
  | true =>
    have hne : c ≠ '>' := by
      rintro rfl
      exact absurd hc (by decide)
    have hend : cut ['>'] (c :: s) ≠ none ↔ '>' ∈ s := by
      rw [cut_singleton_ne_none_iff, List.mem_cons]
      exact or_iff_right hne.symm
    have hname : ¬((c :: s).takeWhile isNameChar).isEmpty = true := by simp [hc]
    rw [← hend, readCloseTag, if_neg hname]
    cases cut ['>'] (c :: s) <;> simp

theorem readOpenTag_ne_none_iff {c : Char} (hc : isAsciiLetter c = true) :
    readOpenTag (c :: s) ≠ none ↔ ClosesTag (s.dropWhile isNameChar) := by
  have hfirst : isNameChar c = true := by
    rw [isNameChar, isAsciiAlphanumeric, hc]
    rfl
  rw [readOpenTag, List.dropWhile_cons_of_pos hfirst]
  exact ⟨closesTag_of_readPartsFrom, fun h => h.readPartsFrom_ne_none _ _⟩

/-- A comment or tag is read exactly where one starts. -/
theorem readMarkup_ne_none_iff : readMarkup s ≠ none ↔ StartsMarkup s := by
  constructor
  · intro h
    unfold readMarkup at h
    split at h
    · next rest => exact .comment rest
    · next rest =>
      cases rest with
      | nil => exact absurd rfl h
      | cons c rest =>
        obtain ⟨hc, hend⟩ := readCloseTag_ne_none_iff.mp h
        exact .closeTag hc hend
    · next c rest _ _ =>
      split at h
      · next hc =>
        have hcloses := (readOpenTag_ne_none_iff hc).mp (mt Option.map_eq_none_iff.mpr h)
        rw [← List.takeWhile_append_dropWhile (p := isNameChar) (l := rest)]
        exact .openTag hc (all_takeWhile _ _) (takeWhile_dropWhile _ _) hcloses
      · exact absurd rfl h
    · exact absurd rfl h
  · intro h
    cases h with
    | comment rest => exact Option.some_ne_none _
    | closeTag hc hend => exact readCloseTag_ne_none_iff.mpr ⟨hc, hend⟩
    | @openTag c name rest hc hname hends hrest =>
      have hdrop : (name ++ rest).dropWhile isNameChar = rest := by
        rw [List.dropWhile_append_of_pos hname, dropWhile_eq_self hends]
      have hopen := (readOpenTag_ne_none_iff hc).mpr (hdrop.symm ▸ hrest)
      rw [readMarkup_of_letter _ hc]
      exact mt Option.map_eq_none_iff.mp hopen

end Stencil.Markup
