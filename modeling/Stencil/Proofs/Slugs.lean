import Mathlib.Data.List.Chain
import Stencil.Library.Identifier
import Stencil.Proofs.Trimming

/-!
What slugs look like. Putting a character in front keeps hyphens apart, so that by induction a
hyphenated text has single hyphens only, and without those at its ends it is made of runs of small
letters and digits. Such a text is left as it is by every step on the way to a slug, if the spelling
leaves it as it is; nothing else is asked of the spelling.
-/
namespace Stencil.Text

variable {c : Char} {s t : List Char} {spelled : List Char → List Char}

/-! ### Characters -/

theorem isSlugChar_hyphen : isSlugChar '-' = false := rfl

theorem ne_hyphen_of_isSlugChar (h : isSlugChar c = true) : c ≠ '-' := by
  rintro rfl
  rw [isSlugChar_hyphen] at h
  cases h

theorem toNat_of_isSlugChar (h : isSlugChar c = true) :
    (97 ≤ c.toNat ∧ c.toNat ≤ 122) ∨ (48 ≤ c.toNat ∧ c.toNat ≤ 57) := by
  simpa [isSlugChar, isAsciiDigit, Char.le_def, UInt32.le_iff_toNat_le] using h

/-! ### Hyphenated texts -/

/-- Small letters, digits and single hyphens. -/
structure Hyphenated (s : List Char) : Prop where
  chars : ∀ c ∈ s, c = '-' ∨ isSlugChar c = true
  apart : s.IsChain fun c d => ¬ (c = '-' ∧ d = '-')

theorem Hyphenated.within (h : Hyphenated s) (ht : t <:+: s) : Hyphenated t :=
  ⟨fun c hc => h.chars c (ht.subset hc), List.IsChain.infix h.apart ht⟩

theorem Hyphenated.of_cons (h : Hyphenated (c :: s)) : Hyphenated s :=
  h.within (List.suffix_cons c s).isInfix

theorem Hyphenated.head?_ne (h : Hyphenated ('-' :: s)) : s.head? ≠ some '-' := by
  intro hhead
  exact (List.isChain_cons.mp h.apart).1 '-' hhead ⟨rfl, rfl⟩

theorem Hyphenated.not_dashes (h : Hyphenated s) : ¬ ['-', '-'] <:+: s := fun hdashes =>
  Hyphenated.head?_ne (h.within hdashes) rfl

/-- A character in front does not bring two hyphens together. -/
theorem Hyphenated.addToSlug (h : Hyphenated s) (c : Char) : Hyphenated (addToSlug c s) := by
  unfold Text.addToSlug
  split
  · next hc =>
    refine ⟨List.forall_mem_cons.mpr ⟨.inr hc, h.chars⟩, List.isChain_cons.mpr ⟨?_, h.apart⟩⟩
    intro d _ hboth
    exact ne_hyphen_of_isSlugChar hc hboth.1
  · split
    · exact h
    · next hhead =>
      refine ⟨List.forall_mem_cons.mpr ⟨.inl rfl, h.chars⟩, List.isChain_cons.mpr ⟨?_, h.apart⟩⟩
      intro d hd hboth
      exact hhead (hboth.2 ▸ hd)

theorem hyphenated_hyphenate (s : List Char) : Hyphenated (hyphenate s) := by
  induction s with
  | nil => exact ⟨List.forall_mem_nil _, .nil⟩
  | cons c s ih => exact ih.addToSlug c

/-- A hyphenated text has no runs left to put hyphens for. -/
theorem hyphenate_of_hyphenated (h : Hyphenated s) : hyphenate s = s := by
  induction s with
  | nil => rfl
  | cons c s ih =>
    show addToSlug c (hyphenate s) = c :: s
    rw [ih h.of_cons, addToSlug]
    rcases h.chars c List.mem_cons_self with rfl | hc
    · rw [isSlugChar_hyphen, if_neg Bool.false_ne_true, if_neg h.head?_ne]
    · rw [if_pos hc]

theorem filter_addToSlug (c : Char) (s : List Char) :
    (addToSlug c s).filter isSlugChar = (c :: s).filter isSlugChar := by
  unfold addToSlug
  split
  · rfl
  · next hc =>
    rw [List.filter_cons_of_neg hc]
    split
    · rfl
    · exact List.filter_cons_of_neg (by simp [isSlugChar_hyphen])

theorem filter_hyphenate (s : List Char) :
    (hyphenate s).filter isSlugChar = s.filter isSlugChar := by
  induction s with
  | nil => rfl
  | cons c s ih =>
    show (addToSlug c (hyphenate s)).filter isSlugChar = _
    rw [filter_addToSlug, List.filter_cons, List.filter_cons, ih]

/-! ### Hyphens at the ends -/

theorem trimHyphens_isInfix (s : List Char) : trimHyphens s <:+: s :=
  (List.rdropWhile_prefix _ _).isInfix.trans (List.dropWhile_suffix _).isInfix

theorem head?_trimHyphens (s : List Char) : (trimHyphens s).head? ≠ some '-' := by
  intro h
  have hhead := List.head?_dropWhile_not (· == '-') (dropEndWhile (· == '-') s)
  rw [dropWhile_dropEndWhile, ← trimHyphens, h] at hhead
  cases hhead

theorem getLast?_trimHyphens (s : List Char) : (trimHyphens s).getLast? ≠ some '-' := by
  intro h
  obtain ⟨hne, hlast⟩ := List.mem_getLast?_eq_getLast h
  exact List.rdropWhile_last_not _ _ hne (beq_iff_eq.mpr hlast.symm)

theorem filter_dropWhile (s : List Char) :
    (s.dropWhile (· == '-')).filter isSlugChar = s.filter isSlugChar := by
  have hhyphens : (s.takeWhile (· == '-')).filter isSlugChar = [] := by
    refine List.filter_eq_nil_iff.mpr fun c hc hslug => ?_
    have hhyphen := List.mem_takeWhile_imp hc
    exact ne_hyphen_of_isSlugChar hslug (beq_iff_eq.mp hhyphen)
  calc
    _ = (s.takeWhile (· == '-') ++ s.dropWhile (· == '-')).filter isSlugChar := by
      rw [List.filter_append, hhyphens, List.nil_append]
    _ = s.filter isSlugChar := by rw [List.takeWhile_append_dropWhile]

/-- Only hyphens are cut off. -/
theorem filter_trimHyphens (s : List Char) :
    (trimHyphens s).filter isSlugChar = s.filter isSlugChar := by
  rw [trimHyphens, dropEndWhile, List.filter_reverse, filter_dropWhile, ← List.filter_reverse,
    List.reverse_reverse, filter_dropWhile]

theorem dropWhile_of_head? (h : s.head? ≠ some '-') : s.dropWhile (· == '-') = s := by
  cases s with
  | nil => rfl
  | cons c s =>
    have hc : c ≠ '-' := fun hc => h (congrArg some hc)
    rw [List.dropWhile_cons, beq_eq_false_iff_ne.mpr hc, if_neg Bool.false_ne_true]

/-- A hyphenated text with no hyphen at either end. -/
structure Tidy (s : List Char) : Prop extends Hyphenated s where
  first : s.head? ≠ some '-'
  last : s.getLast? ≠ some '-'

theorem Tidy.trimHyphens (h : Tidy s) : trimHyphens s = s := by
  rw [Text.trimHyphens, dropWhile_of_head? h.first]
  refine List.rdropWhile_eq_self_iff.mpr fun hne hhyphen => h.last ?_
  rw [List.getLast?_eq_some_getLast hne, beq_iff_eq.mp hhyphen]

/-! ### Slugs -/

/-- Runs of small letters and digits, none of them empty, joined by single hyphens. -/
def IsSlug (s : List Char) : Prop :=
  ∃ runs : List (List Char),
    (∀ run ∈ runs, run ≠ [] ∧ ∀ c ∈ run, isSlugChar c = true) ∧ s = ['-'].intercalate runs

theorem isSlug_nil : IsSlug [] := ⟨[], List.forall_mem_nil _, rfl⟩

theorem cons_intercalate (sep : List Char) (c : Char) (run : List Char)
    (runs : List (List Char)) :
    sep.intercalate ((c :: run) :: runs) = c :: sep.intercalate (run :: runs) := by
  cases runs with
  | nil => rfl
  | cons next runs => rw [List.intercalate_cons_cons, List.intercalate_cons_cons]; rfl

/-- A character that goes on with the first run. -/
theorem IsSlug.cons (h : IsSlug s) (hc : isSlugChar c = true) : IsSlug (c :: s) := by
  obtain ⟨runs, hruns, rfl⟩ := h
  cases runs with
  | nil =>
    refine ⟨[[c]], List.forall_mem_singleton.mpr ⟨List.cons_ne_nil c [], ?_⟩, rfl⟩
    exact List.forall_mem_singleton.mpr hc
  | cons run runs =>
    obtain ⟨hrun, hrest⟩ := List.forall_mem_cons.mp hruns
    refine ⟨(c :: run) :: runs, List.forall_mem_cons.mpr ⟨⟨List.cons_ne_nil c run, ?_⟩, hrest⟩,
      (cons_intercalate _ c run runs).symm⟩
    exact List.forall_mem_cons.mpr ⟨hc, hrun.2⟩

/-- A run of one character in front. -/
theorem IsSlug.cons_hyphen (h : IsSlug s) (hne : s ≠ []) (hc : isSlugChar c = true) :
    IsSlug (c :: '-' :: s) := by
  obtain ⟨runs, hruns, rfl⟩ := h
  cases runs with
  | nil => exact absurd rfl hne
  | cons run runs =>
    refine ⟨[c] :: run :: runs, List.forall_mem_cons.mpr ⟨⟨List.cons_ne_nil c [], ?_⟩, hruns⟩, ?_⟩
    · exact List.forall_mem_singleton.mpr hc
    · rw [List.intercalate_cons_cons]
      rfl

/-- A hyphenated text that does not end with a hyphen is a slug behind the hyphen at its front. -/
theorem isSlug_dropWhile (h : Hyphenated s) (hlast : s.getLast? ≠ some '-') :
    IsSlug (s.dropWhile (· == '-')) := by
  induction s with
  | nil => exact isSlug_nil
  | cons c s ih =>
    have hrest : s.getLast? ≠ some '-' := by
      intro hend
      rw [List.getLast?_cons, hend] at hlast
      exact hlast rfl
    have hslug := ih h.of_cons hrest
    rcases h.chars c List.mem_cons_self with rfl | hc
    · exact hslug
    · have hfirst : (c :: s).head? ≠ some '-' := fun hhead =>
        ne_hyphen_of_isSlugChar hc (Option.some.inj hhead)
      rw [dropWhile_of_head? hfirst]
      -- a hyphen behind the character ends its run, and what follows that hyphen is a slug
      by_cases hhead : s.head? = some '-'
      · obtain ⟨t, rfl⟩ := List.head?_eq_some_iff.mp hhead
        have ht : ('-' :: t).dropWhile (· == '-') = t := dropWhile_of_head? h.of_cons.head?_ne
        rw [ht] at hslug
        refine hslug.cons_hyphen ?_ hc
        rintro rfl
        exact hrest rfl
      · rw [dropWhile_of_head? hhead] at hslug
        exact hslug.cons hc

theorem Tidy.isSlug (h : Tidy s) : IsSlug s := by
  rw [← dropWhile_of_head? h.first]
  exact isSlug_dropWhile h.toHyphenated h.last

theorem tidy_slugBy (spelled : List Char → List Char) (s : List Char) :
    Tidy (slugBy spelled s) where
  toHyphenated := (hyphenated_hyphenate _).within (trimHyphens_isInfix _)
  first := head?_trimHyphens _
  last := getLast?_trimHyphens _

/-- The letters and digits of the text in lower case are all kept. -/
theorem filter_slugBy (spelled : List Char → List Char) (s : List Char) :
    (slugBy spelled s).filter isSlugChar = (lower (spelled s)).filter isSlugChar := by
  rw [slugBy, filter_trimHyphens, filter_hyphenate]

/-! ### Slugs of slugs -/

/-- A spelling that leaves printable ASCII text as it is. -/
def KeepsAscii (spelled : List Char → List Char) : Prop :=
  ∀ s : List Char, (∀ c ∈ s, 0x20 ≤ c.toNat ∧ c.toNat < 0x7f) → spelled s = s

theorem keepsAscii_transliterate : KeepsAscii transliterate := by
  intro s hs
  have hplain : ∀ c ∈ s, isPlain c = true := fun c hc => decide_eq_true (hs c hc).2
  rw [transliterate, List.takeWhile_eq_self_iff.mpr hplain, List.dropWhile_eq_nil_iff.mpr hplain]
  exact List.append_nil s

theorem Hyphenated.toNat (h : Hyphenated s) (hc : c ∈ s) :
    c.toNat = 45 ∨ (97 ≤ c.toNat ∧ c.toNat ≤ 122) ∨ (48 ≤ c.toNat ∧ c.toNat ≤ 57) := by
  rcases h.chars c hc with rfl | hslug
  · exact .inl rfl
  · exact .inr (toNat_of_isSlugChar hslug)

theorem Hyphenated.lower (h : Hyphenated s) : lower s = s := by
  refine lower_eq_self fun c hc => ?_
  have hcode := h.toNat hc
  have hascii : c.toNat < 0x80 := by omega
  have hsmall : asciiLower c = c := by
    refine if_neg fun hcapital => ?_
    simp only [Bool.and_eq_true, decide_eq_true_eq, Char.le_def, UInt32.le_iff_toNat_le] at hcapital
    have hlow : 65 ≤ c.toNat := hcapital.1
    have hhigh : c.toNat ≤ 90 := hcapital.2
    omega
  constructor
  · rintro rfl
    exact absurd hascii (by decide)
  · rw [lowerChar, if_pos hascii, hsmall]

/-- A tidy text is its own slug. -/
theorem Tidy.slugBy (h : Tidy s) (hspelled : KeepsAscii spelled) : slugBy spelled s = s := by
  have hprintable : ∀ c ∈ s, 0x20 ≤ c.toNat ∧ c.toNat < 0x7f := by
    intro c hc
    have hcode := h.toNat hc
    omega
  rw [Text.slugBy, hspelled s hprintable, h.lower, hyphenate_of_hyphenated h.toHyphenated,
    h.trimHyphens]

end Stencil.Text

namespace Stencil.Library.Identifier

open Text

theorem slugifyBy_eq (spelled : List Char → List Char) (v : Value) :
    slugifyBy spelled [v] = .ok (.ofChars (slugBy spelled v.text.toList)) := rfl

/-- The slug of any value is made of runs of small letters and digits with single hyphens between
them, it keeps the letters and digits of the text that is spelled in ASCII and put in lower case, and
it is its own slug, with any spelling that leaves printable ASCII text as it is. -/
theorem slugifyBy_isSlug {spelled : List Char → List Char} (hspelled : KeepsAscii spelled)
    (v : Value) :
    ∃ t : List Char,
      slugifyBy spelled [v] = .ok (.ofChars t) ∧ IsSlug t ∧
      t.head? ≠ some '-' ∧ t.getLast? ≠ some '-' ∧ ¬ ['-', '-'] <:+: t ∧
      (∀ c ∈ t, c = '-' ∨ isSlugChar c = true) ∧
      t.filter isSlugChar = (lower (spelled v.text.toList)).filter isSlugChar ∧
      slugifyBy spelled [.ofChars t] = .ok (.ofChars t) := by
  have htidy := tidy_slugBy spelled v.text.toList
  refine ⟨_, slugifyBy_eq spelled v, htidy.isSlug, htidy.first, htidy.last, htidy.not_dashes,
    htidy.chars, filter_slugBy spelled _, ?_⟩
  rw [slugifyBy_eq]
  show Except.ok (Value.ofChars (slugBy spelled (String.ofList _).toList)) = _
  rw [String.toList_ofList, htidy.slugBy hspelled]

/-- A text with accents, with separators at both ends and several in a row. -/
theorem slugifyBy_isSlug_accented :
    KeepsAscii transliterate ∧
      ∃ t : List Char,
        slugify [.string " -Héllo,--Wörld! "] = .ok (.ofChars t) ∧
        String.ofList t = "hello-world" ∧ IsSlug t ∧ slugify [.ofChars t] = .ok (.ofChars t) := by
  obtain ⟨t, hslug, hruns, -, -, -, -, -, hself⟩ :=
    slugifyBy_isSlug keepsAscii_transliterate (.string " -Héllo,--Wörld! ")
  have hvalue : slugify [.string " -Héllo,--Wörld! "] = .ok (.string "hello-world") := rfl
  have htext : Value.ofChars t = .string "hello-world" :=
    Except.ok.inj (hslug.symm.trans hvalue)
  exact ⟨keepsAscii_transliterate, t, hslug, Value.string.inj htext, hruns, hself⟩

end Stencil.Library.Identifier
