import Stencil.Proofs.Locality

/-!
Opening tags written in one plain way: a name and attributes, each of them one space and
`name="value"`. Such a tag is read back as it was written, whatever stands behind it, and so is its
closing tag.
-/
namespace Stencil.Markup

open Text

/-- An attribute written as one space, a name and a value in quotes. -/
structure QuotedAttr where
  name : List Char
  value : List Char
  deriving DecidableEq, Repr

/-- The name and the attributes of an element. -/
structure Head where
  name : List Char
  attrs : List QuotedAttr
  deriving DecidableEq, Repr

namespace QuotedAttr

def source (a : QuotedAttr) : List Char := ' ' :: a.name ++ '=' :: '"' :: a.value ++ ['"']

def toAttr (a : QuotedAttr) : Attr := ⟨a.name, some a.value, a.source⟩

/-- The name consists of characters of attribute names, and no quote ends the value early. -/
structure Readable (a : QuotedAttr) : Prop where
  name_ne_nil : a.name ≠ []
  name_chars : ∀ c ∈ a.name, isAttrNameChar c = true
  value_quotes : '"' ∉ a.value

instance (a : QuotedAttr) : Decidable a.Readable :=
  decidable_of_iff (a.name ≠ [] ∧ a.name.all isAttrNameChar = true ∧ '"' ∉ a.value)
    ⟨fun h => ⟨h.1, List.all_eq_true.mp h.2.1, h.2.2⟩,
      fun h => ⟨h.name_ne_nil, List.all_eq_true.mpr h.name_chars, h.value_quotes⟩⟩

end QuotedAttr

namespace Head

def tag (h : Head) : OpenTag := ⟨h.name, h.attrs.map fun a => .attr a.toAttr, ['>'], false⟩

def source (h : Head) : List Char :=
  '<' :: (h.name ++ (h.attrs.flatMap QuotedAttr.source ++ ['>']))

/-- The closing tag. -/
def closing (h : Head) : List Char := '<' :: '/' :: (h.name ++ ['>'])

/-- The name starts with a letter and goes on with characters of tag names, and the attributes can
be read. -/
structure Readable (h : Head) : Prop where
  name_start : ∃ c rest, h.name = c :: rest ∧ isAsciiLetter c = true
  name_chars : ∀ c ∈ h.name, isNameChar c = true
  attrs : ∀ a ∈ h.attrs, a.Readable

theorem startsWithLetter_iff {s : List Char} :
    s.head?.any isAsciiLetter = true ↔ ∃ c rest, s = c :: rest ∧ isAsciiLetter c = true := by
  cases s <;> simp

instance (h : Head) : Decidable h.Readable :=
  decidable_of_iff (h.name.head?.any isAsciiLetter = true ∧
      h.name.all isNameChar = true ∧ ∀ a ∈ h.attrs, a.Readable)
    ⟨fun hr => ⟨startsWithLetter_iff.mp hr.1, List.all_eq_true.mp hr.2.1, hr.2.2⟩,
      fun hr =>
        ⟨startsWithLetter_iff.mpr hr.name_start, List.all_eq_true.mpr hr.name_chars, hr.attrs⟩⟩

theorem source_tag (h : Head) : h.tag.source = h.source := by
  have hparts : ∀ attrs : List QuotedAttr,
      (attrs.map fun a => Part.attr a.toAttr).flatMap Part.source =
        attrs.flatMap QuotedAttr.source := by
    intro attrs
    induction attrs with
    | nil => rfl
    | cons a attrs ih => rw [List.map_cons, List.flatMap_cons, List.flatMap_cons, ih]; rfl
  simp [OpenTag.source, tag, source, hparts]

theorem attrs_tag (h : Head) : h.tag.attrs = h.attrs.map QuotedAttr.toAttr := by
  obtain ⟨name, attrs⟩ := h
  simp only [OpenTag.attrs, tag]
  induction attrs with
  | nil => rfl
  | cons a attrs ih => rw [List.map_cons, List.filterMap_cons, ih]; rfl

end Head

/-! ### Reading back -/

theorem takeWhile_append_cons {p : Char → Bool} {a : List Char} {c : Char} (s : List Char)
    (ha : ∀ x ∈ a, p x = true) (hc : p c = false) : (a ++ c :: s).takeWhile p = a := by
  rw [List.takeWhile_append_of_pos ha, List.takeWhile_cons, hc]
  simp

theorem dropWhile_append_cons {p : Char → Bool} {a : List Char} {c : Char} (s : List Char)
    (ha : ∀ x ∈ a, p x = true) (hc : p c = false) : (a ++ c :: s).dropWhile p = c :: s := by
  rw [List.dropWhile_append_of_pos ha, List.dropWhile_cons, hc]
  simp

theorem isMarkupBlank_of_isAttrNameChar {c : Char} (h : isAttrNameChar c = true) :
    isMarkupBlank c = false := by
  simp only [isAttrNameChar, Bool.and_eq_true, Bool.not_eq_true'] at h
  exact h.1

namespace QuotedAttr

variable {a : QuotedAttr}

theorem readValue_source (h : a.Readable) (s : List Char) :
    readValue ('=' :: '"' :: (a.value ++ '"' :: s)) =
      .found a.value ('=' :: '"' :: a.value ++ ['"']) s := by
  have hcut : cut ['"'] (a.value ++ '"' :: s) = some (a.value, s) :=
    cut_append_part s h.value_quotes
  have heq : isMarkupBlank '=' = false := by decide
  have hquote : isMarkupBlank '"' = false := by decide
  simp [readValue, heq, hquote, readBareValue, hcut]

theorem readAttr_source (h : a.Readable) (s : List Char) :
    readAttr [' '] (a.name ++ '=' :: '"' :: (a.value ++ '"' :: s)) = .part (.attr a.toAttr) s := by
  have heq : isAttrNameChar '=' = false := by decide
  simp only [readAttr, takeWhile_append_cons _ h.name_chars heq,
    dropWhile_append_cons _ h.name_chars heq, readValue_source h]
  simp [toAttr, source]

/-- An attribute is read as one part of a tag. -/
theorem readStep_source (h : a.Readable) (s : List Char) :
    readStep (a.source ++ s) = .part (.attr a.toAttr) s := by
  obtain ⟨c, name, hname⟩ := List.exists_cons_of_ne_nil h.name_ne_nil
  have hc : isAttrNameChar c = true := h.name_chars c (by simp [hname])
  have hsource : a.source ++ s = ' ' :: (a.name ++ '=' :: '"' :: (a.value ++ '"' :: s)) := by
    simp [source]
  have hspace : isMarkupBlank ' ' = true := by decide
  have hblank := isMarkupBlank_of_isAttrNameChar hc
  have hread := readAttr_source h s
  rw [hname, List.cons_append] at hread
  rw [hsource, hname, List.cons_append, readStep]
  simp only [List.takeWhile_cons, List.dropWhile_cons, hspace, hblank, ↓reduceIte,
    Bool.false_eq_true]
  split
  · next heq => simp at heq
  · next heq =>
    obtain ⟨rfl, -⟩ := List.cons.inj heq
    simp [isAttrNameChar] at hc
  · next heq =>
    obtain ⟨rfl, -⟩ := List.cons.inj heq
    simp [isAttrNameChar] at hc
  · next heq =>
    obtain ⟨rfl, rfl⟩ := List.cons.inj heq
    rw [if_pos hc, hread]

end QuotedAttr

namespace Head

variable {h : Head}

theorem readStep_end (s : List Char) : readStep ('>' :: s) = .tail ['>'] false s := by
  have hblank : isMarkupBlank '>' = false := by decide
  simp [readStep, hblank]

theorem readPartsFrom_attrs {attrs : List QuotedAttr} (hattrs : ∀ a ∈ attrs, a.Readable)
    (name : List Char) (done : List Part) (s : List Char) :
    readPartsFrom name done (attrs.flatMap QuotedAttr.source ++ '>' :: s) =
      some (⟨name, done.reverse ++ attrs.map (fun a => .attr a.toAttr), ['>'], false⟩, s) := by
  induction attrs generalizing done with
  | nil => simpa using readPartsFrom_tail name done (readStep_end s)
  | cons a attrs ih =>
    have hstep := QuotedAttr.readStep_source (hattrs a (List.mem_cons_self ..))
      (attrs.flatMap QuotedAttr.source ++ '>' :: s)
    rw [List.flatMap_cons, List.append_assoc, readPartsFrom_part name done hstep,
      ih fun b hb => hattrs b (List.mem_cons_of_mem _ hb)]
    simp

/-- The character behind a name is none of its characters. -/
theorem exists_behind_name (h : Head) (s : List Char) :
    ∃ c rest, h.attrs.flatMap QuotedAttr.source ++ '>' :: s = c :: rest ∧
      isNameChar c = false := by
  cases h.attrs with
  | nil => exact ⟨'>', s, rfl, by decide⟩
  | cons a attrs => exact ⟨' ', _, rfl, by decide⟩

/-- An opening tag is read as it was written. -/
theorem readMarkup_source (hr : h.Readable) (s : List Char) :
    readMarkup (h.name ++ (h.attrs.flatMap QuotedAttr.source ++ '>' :: s)) =
      some (.openTag h.tag, s) := by
  obtain ⟨d, rest, hrest, hd⟩ := exists_behind_name h s
  have hread : readOpenTag (h.name ++ (h.attrs.flatMap QuotedAttr.source ++ '>' :: s)) =
      some (h.tag, s) := by
    rw [readOpenTag, hrest, takeWhile_append_cons _ hr.name_chars hd,
      dropWhile_append_cons _ hr.name_chars hd, ← hrest, readPartsFrom_attrs hr.attrs]
    rfl
  obtain ⟨c, name, hname, hc⟩ := hr.name_start
  rw [hname, List.cons_append] at hread ⊢
  rw [readMarkup_of_letter _ hc, hread]
  rfl

/-- A closing tag is read as it was written. -/
theorem readMarkup_closing (hr : h.Readable) (s : List Char) :
    readMarkup ('/' :: (h.name ++ '>' :: s)) = some (.closeTag h.name h.closing, s) := by
  obtain ⟨c, name, hname, -⟩ := hr.name_start
  have hgt : isNameChar '>' = false := by decide
  have hmem : '>' ∉ h.name := fun hm => by simp [hr.name_chars _ hm] at hgt
  have hcut : cut ['>'] (h.name ++ '>' :: s) = some (h.name, s) :=
    cut_append_part s hmem
  rw [readMarkup, readCloseTag, takeWhile_append_cons _ hr.name_chars hgt, hcut]
  simp [hname, closing]

end Head

end Stencil.Markup
