import Stencil.Proofs.TagEditing

/-!
Tags in which every attribute stands behind blanks and nothing else stands between them. Nothing in
such a tag runs together whatever becomes of its attributes, and what is written is such a tag
again.
-/
namespace Stencil.Markup

open Text

variable {ending s : List Char} {selfClosing : Bool} {parts : List Part} {t : OpenTag} {a : Attr}
  {change : Attr → Change}

/-- Blanks of markup in front of a name without blanks, and a value that the end of the tag does not
go on. -/
structure Attr.Spaced (ending : List Char) (a : Attr) : Prop where
  blank : a.source.takeWhile isMarkupBlank ≠ []
  name : ∀ c ∈ a.name, isBlank c = false
  ends : a.EndsBefore ending

instance (ending : List Char) (a : Attr) : Decidable (a.Spaced ending) :=
  decidable_of_iff (a.source.takeWhile isMarkupBlank ≠ [] ∧
      a.name.all (fun c => isBlank c == false) = true ∧ a.EndsBefore ending)
    ⟨fun h => ⟨h.1, fun c hc => beq_iff_eq.mp (List.all_eq_true.mp h.2.1 c hc), h.2.2⟩,
      fun h => ⟨h.blank, List.all_eq_true.mpr fun c hc => beq_iff_eq.mpr (h.name c hc), h.ends⟩⟩

def Part.Spaced (ending : List Char) : Part → Prop
  | .attr a => a.Spaced ending
  | .stray _ => False

instance (ending : List Char) : DecidablePred (Part.Spaced ending)
  | .attr a => inferInstanceAs (Decidable (a.Spaced ending))
  | .stray _ => inferInstanceAs (Decidable False)

def OpenTag.Spaced (t : OpenTag) : Prop := ∀ p ∈ t.parts, p.Spaced t.tail

instance : DecidablePred OpenTag.Spaced :=
  fun t => inferInstanceAs (Decidable (∀ p ∈ t.parts, p.Spaced t.tail))

/-! ### What begins with blanks and a name -/

/-- Blanks and a name at the front. -/
def BeginsApart (s : List Char) : Prop :=
  ∃ blanks name rest, blanks ≠ [] ∧ SpelledName blanks name ∧ s = blanks ++ (name ++ rest)

theorem BeginsApart.append (h : BeginsApart s) (behind : List Char) :
    BeginsApart (s ++ behind) := by
  obtain ⟨blanks, name, rest, hne, hname, rfl⟩ := h
  exact ⟨blanks, name, rest ++ behind, hne, hname, by simp⟩

theorem BeginsApart.takeWhile_eq_nil (h : BeginsApart s) {p : Char → Bool}
    (hp : ∀ c, isMarkupBlank c = true → p c = false) : s.takeWhile p = [] := by
  obtain ⟨blanks, name, rest, hne, hname, rfl⟩ := h
  obtain ⟨b, blanks, rfl⟩ := List.exists_cons_of_ne_nil hne
  exact takeWhile_cons_eq_nil _ (hp b (hname.blanks b (List.mem_cons_self ..)))

theorem isNameChar_of_isMarkupBlank {c : Char} (h : isMarkupBlank c = true) :
    isNameChar c = false := by
  simp only [isMarkupBlank, Bool.or_eq_true, beq_iff_eq] at h
  rcases h with (((rfl | rfl) | rfl) | rfl) | rfl <;> decide

theorem isAttrNameChar_of_isMarkupBlank {c : Char} (h : isMarkupBlank c = true) :
    isAttrNameChar c = false := by
  rw [isAttrNameChar, h]
  rfl

theorem isUnquoted_of_isMarkupBlank {c : Char} (h : isMarkupBlank c = true) :
    isUnquoted c = false := by
  rw [isUnquoted, h]
  rfl

/-- An attribute ends before blanks and another name. -/
theorem Attr.endsBefore_of_beginsApart (h : BeginsApart s)
    (hvalue : a.isQuoted = true ∨ a.value ≠ some []) : a.EndsBefore s := by
  rw [Attr.EndsBefore]
  split
  · refine ⟨h.takeWhile_eq_nil fun _ => isAttrNameChar_of_isMarkupBlank, ?_⟩
    obtain ⟨blanks, name, rest, -, hname, rfl⟩ := h
    obtain ⟨c, n, rfl, hc⟩ := hname.exists_cons
    obtain ⟨hblank, hequals, -⟩ := isAttrNameChar_cases hc
    rw [List.cons_append, dropWhile_append_cons _ hname.blanks hblank]
    simp [hequals]
  · next value hsome =>
    refine hvalue.imp_right fun hne => ?_
    refine ⟨h.takeWhile_eq_nil fun _ => isUnquoted_of_isMarkupBlank, fun hnil => ?_⟩
    rw [hsome, hnil] at hne
    exact absurd rfl hne

theorem Attr.Spelled.beginsApart (hspelled : a.Spelled)
    (hblank : a.source.takeWhile isMarkupBlank ≠ []) : BeginsApart a.source := by
  obtain ⟨blanks, rest, hname, hsource⟩ := hspelled.exists_source
  refine ⟨blanks, a.name, rest, ?_, hname, hsource⟩
  rintro rfl
  obtain ⟨c, n, hn, hc⟩ := hname.exists_cons
  rw [hsource, hn, List.nil_append, List.cons_append,
    takeWhile_cons_eq_nil _ (isAttrNameChar_cases hc).1] at hblank
  exact hblank rfl

theorem Attr.Spaced.takeWhile_name (h : a.Spaced ending) : a.name.takeWhile isBlank = [] := by
  cases hn : a.name with
  | nil => rfl
  | cons c n => exact takeWhile_cons_eq_nil n (h.name c (by simp [hn]))

theorem Attr.Spaced.indent_ne_nil (h : a.Spaced ending) : a.indent ≠ [] := by
  have hblank := h.blank
  rw [Attr.indent]
  cases hs : a.source with
  | nil => simp [hs] at hblank
  | cons c rest =>
    cases hc : isMarkupBlank c with
    | false => simp [hs, hc] at hblank
    | true => simp [isBlank_of_isMarkupBlank hc]

/-! ### After a change -/

/-- What an attribute becomes is spelled in the same way. -/
theorem Attr.Spaced.changed {b : Attr} {c : Change} (h : a.Spaced ending) (hspelled : a.Spelled)
    (hc : c.Readable) (hname : ∀ q, c = .set q → ∀ d ∈ q.name, d ∈ a.name)
    (hb : c.attr? a = some b) : b.Spaced ending ∧ BeginsApart b.source := by
  cases c with
  | keep =>
    obtain rfl := Option.some.inj hb
    exact ⟨h, hspelled.beginsApart h.blank⟩
  | drop => simp [Change.attr?] at hb
  | set q =>
    obtain rfl := Option.some.inj hb
    have hblanks := hspelled.indent_blanks h.takeWhile_name
    have hnew : SpelledName a.indent q.name := ⟨hblanks, hc.name_ne_nil, hc.name_chars⟩
    have hbegins : BeginsApart (a.indent ++ q.text) :=
      ⟨a.indent, q.name, _, h.indent_ne_nil, hnew, rfl⟩
    refine ⟨⟨?_, fun d hd => h.name d (hname q rfl d hd), Or.inl ?_⟩, hbegins⟩
    · obtain ⟨b, indent, hindent⟩ := List.exists_cons_of_ne_nil h.indent_ne_nil
      simp [hindent, hblanks b (by simp [hindent])]
    · have hnil : ∀ c ∈ ([] : List Char), isMarkupBlank c = true := fun c hc => nomatch hc
      have hquote : isQuote '"' = true := by decide
      have hquoted := isQuoted_quoted hnew hnil hnil hquote (some q.value) (q.value ++ ['"'])
      rwa [List.append_assoc] at hquoted

theorem readStep_tail_cases {source rest : List Char}
    (h : readStep s = .tail source selfClosing rest) :
    ∃ blanks, (∀ c ∈ blanks, isMarkupBlank c = true) ∧
      (source = blanks ++ ['>'] ∨ source = blanks ++ ['/', '>']) := by
  unfold readStep at h
  split at h
  · simp at h
  · obtain ⟨rfl, -, -⟩ := TagStep.tail.inj h
    exact ⟨_, all_takeWhile _ _, Or.inl rfl⟩
  · obtain ⟨rfl, -, -⟩ := TagStep.tail.inj h
    exact ⟨_, all_takeWhile _ _, Or.inr rfl⟩
  · split at h
    · simp only [readAttr] at h
      split at h <;> simp at h
    · simp at h

/-- A name does not go on into the end of its tag. -/
theorem Reads.takeWhile_ending (h : Reads ending selfClosing parts) :
    ending.takeWhile isNameChar = [] := by
  obtain ⟨blanks, hblanks, hending⟩ := readStep_tail_cases h.readStep_ending
  cases blanks with
  | nil => rcases hending with rfl | rfl <;> decide
  | cons b blanks =>
    have hb := isNameChar_of_isMarkupBlank (hblanks b (List.mem_cons_self ..))
    rcases hending with rfl | rfl <;> exact takeWhile_cons_eq_nil _ hb

/-- The changes leave tags that can be read, and bring no characters into names. -/
def Renames (change : Attr → Change) (a : Attr) : Prop :=
  (change a).Readable ∧ ∀ q, change a = .set q → ∀ c ∈ q.name, c ∈ a.name

/-- What is written of parts begins with blanks and a name. -/
theorem changedText_cases (hreads : Reads ending selfClosing parts)
    (hspaced : ∀ p ∈ parts, p.Spaced ending) (hchange : ∀ a, .attr a ∈ parts → Renames change a) :
    changedText change parts = [] ∨ BeginsApart (changedText change parts) := by
  induction parts with
  | nil => exact Or.inl rfl
  | cons p parts ih =>
    have hp := hspaced p (List.mem_cons_self ..)
    cases p with
    | stray source => exact absurd hp id
    | attr a =>
      obtain ⟨hreadable, hname⟩ := hchange a (List.mem_cons_self ..)
      have hspelled := (spelled_of_readStep hreads.1).1
      rw [changedText, List.filterMap_cons, Part.changed?]
      cases hb : (change a).attr? a with
      | none =>
        exact ih hreads.2 (fun p hp => hspaced p (List.mem_cons_of_mem _ hp))
          fun a ha => hchange a (List.mem_cons_of_mem _ ha)
      | some b => exact Or.inr ((hp.changed hspelled hreadable hname hb).2.append _)

theorem standApart_of_spaced (hreads : Reads ending selfClosing parts)
    (hspaced : ∀ p ∈ parts, p.Spaced ending) (hchange : ∀ a, .attr a ∈ parts → Renames change a) :
    StandApart change ending parts := by
  induction parts with
  | nil => trivial
  | cons p parts ih =>
    have hp := hspaced p (List.mem_cons_self ..)
    have hspaced' : ∀ p ∈ parts, p.Spaced ending :=
      fun p hp => hspaced p (List.mem_cons_of_mem _ hp)
    have hchange' : ∀ a, .attr a ∈ parts → Renames change a :=
      fun a ha => hchange a (List.mem_cons_of_mem _ ha)
    refine ⟨?_, ih hreads.2 hspaced' hchange'⟩
    cases p with
    | stray source => exact absurd hp id
    | attr a =>
      rw [Part.StandsApart]
      cases hc : change a with
      | drop => trivial
      | set q => exact hp.takeWhile_name
      | keep =>
        obtain ⟨-, hends⟩ := spelled_of_readStep hreads.1
        rcases changedText_cases hreads.2 hspaced' hchange' with hnil | hbegins
        · rw [hnil]
          exact hp.ends
        · refine Attr.endsBefore_of_beginsApart (hbegins.append ending) ?_
          -- only the last attribute of a tag can have an empty value without quotes
          by_cases hvalue : a.isQuoted = true ∨ a.value ≠ some []
          · exact hvalue
          · obtain ⟨hquoted, hempty⟩ := not_or.mp hvalue
            obtain rfl := eq_nil_of_empty_value hreads.2 hends (Classical.not_not.mp hempty)
              (Bool.eq_false_iff.mpr hquoted)
            obtain ⟨blanks, name, rest, hne, -, hcons⟩ := hbegins
            exact absurd (List.append_eq_nil_iff.mp hcons.symm).1 hne

namespace OpenTag.Spaced

variable (h : t.Spaced) (hscanned : t.Scanned) (hchange : ∀ a ∈ t.attrs, Renames change a)

include h hscanned hchange

theorem apart : t.Apart change := by
  obtain ⟨-, -, hreads⟩ := hscanned.reads
  have hchange : ∀ a, .attr a ∈ t.parts → Renames change a :=
    fun a ha => hchange a (OpenTag.mem_attrs.mpr ha)
  refine ⟨?_, standApart_of_spaced hreads h hchange⟩
  rcases changedText_cases hreads h hchange with hnil | hbegins
  · rw [hnil]
    exact hreads.takeWhile_ending
  · exact (hbegins.append t.tail).takeWhile_eq_nil fun _ => isNameChar_of_isMarkupBlank

theorem scanned_changed : (t.changed change).Scanned :=
  hscanned.changed (fun a ha => (hchange a ha).1) (h.apart hscanned hchange)

theorem changed : (t.changed change).Spaced := by
  obtain ⟨-, -, hreads⟩ := hscanned.reads
  intro p hp
  obtain ⟨old, hold, hbecomes⟩ := List.mem_filterMap.mp hp
  have hspaced := h old hold
  cases old with
  | stray source => exact absurd hspaced id
  | attr a =>
    obtain ⟨b, hb, rfl⟩ := Option.map_eq_some_iff.mp hbecomes
    obtain ⟨hreadable, hname⟩ := hchange a (OpenTag.mem_attrs.mpr hold)
    exact (hspaced.changed (hreads.spelled hold) hreadable hname hb).1

end OpenTag.Spaced

end Stencil.Markup
