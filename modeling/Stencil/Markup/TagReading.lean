import Stencil.Markup.Tag
import Stencil.Text.Search

/-!
Reading opening tags. The reader goes from part to part and accepts stray characters between
attributes; a tag fails to be read only if the text ends inside it. The source of the tag and what
follows it make up the text.
-/
namespace Stencil.Markup

open Text

/-- The characters of tag names. -/
def isNameChar (c : Char) : Bool :=
  isAsciiAlphanumeric c || c == '-' || c == '_' || c == ':' || c == '.'

/-- The characters of attribute names; all beyond ASCII are among them. -/
def isAttrNameChar (c : Char) : Bool :=
  !isMarkupBlank c && !(c == '=' || c == '>' || c == '/' || c == '"' || c == '\'' || c == '<')

/-- The characters of values without quotes. -/
def isUnquoted (c : Char) : Bool := !isMarkupBlank c && c != '>'

/-- What follows the name of an attribute: no value, a value with its source from the blanks before
the equals sign on, or a value that does not end. -/
inductive ValueReading where
  | absent
  | found (value source rest : List Char)
  | unfinished

/-- Reads the value behind an equals sign and blanks, which are `before`. -/
def readBareValue (before : List Char) : List Char → ValueReading
  | [] => .unfinished
  | c :: s =>
    if c == '"' || c == '\'' then
      match cut [c] s with
      | some (value, rest) => .found value (before ++ c :: value ++ [c]) rest
      | none => .unfinished
    else
      .found ((c :: s).takeWhile isUnquoted) (before ++ (c :: s).takeWhile isUnquoted)
        ((c :: s).dropWhile isUnquoted)

/-- Reads what follows the name of an attribute. -/
def readValue (s : List Char) : ValueReading :=
  match s.dropWhile isMarkupBlank with
  | '=' :: rest =>
    readBareValue (s.takeWhile isMarkupBlank ++ '=' :: rest.takeWhile isMarkupBlank)
      (rest.dropWhile isMarkupBlank)
  | _ => .absent

/-- The next step through a tag behind its name: a part, the end of the tag, or the end of the text
inside the tag. -/
inductive TagStep where
  | part (p : Part) (rest : List Char)
  | tail (source : List Char) (selfClosing : Bool) (rest : List Char)
  | unfinished

/-- Reads an attribute that starts with `blanks` and is at the front of `s` behind them. -/
def readAttr (blanks s : List Char) : TagStep :=
  let name := s.takeWhile isAttrNameChar
  let rest := s.dropWhile isAttrNameChar
  match readValue rest with
  | .absent => .part (.attr ⟨name, none, blanks ++ name⟩) rest
  | .found value source rest => .part (.attr ⟨name, some value, blanks ++ name ++ source⟩) rest
  | .unfinished => .unfinished

def readStep (s : List Char) : TagStep :=
  let blanks := s.takeWhile isMarkupBlank
  match s.dropWhile isMarkupBlank with
  | [] => .unfinished
  | '>' :: rest => .tail (blanks ++ ['>']) false rest
  | '/' :: '>' :: rest => .tail (blanks ++ ['/', '>']) true rest
  | c :: rest =>
    if isAttrNameChar c then readAttr blanks (c :: rest)
    else .part (.stray (blanks ++ [c])) rest

theorem readBareValue_found {before s value source rest : List Char}
    (h : readBareValue before s = .found value source rest) : source ++ rest = before ++ s := by
  unfold readBareValue at h
  split at h
  · simp at h
  · next c s =>
    split at h
    · split at h
      · next a b hc =>
        simp only [ValueReading.found.injEq] at h
        obtain ⟨rfl, rfl, rfl⟩ := h
        simp [cut_eq_some hc]
      · simp at h
    · simp only [ValueReading.found.injEq] at h
      obtain ⟨rfl, rfl, rfl⟩ := h
      rw [List.append_assoc, List.takeWhile_append_dropWhile]

theorem readValue_found {s value source rest : List Char}
    (h : readValue s = .found value source rest) : source ++ rest = s := by
  unfold readValue at h
  split at h
  · next tail ht =>
    rw [readBareValue_found h, List.append_assoc, List.cons_append,
      List.takeWhile_append_dropWhile, ← ht, List.takeWhile_append_dropWhile]
  · simp at h

theorem readAttr_part {blanks s rest : List Char} {p : Part} {c : Char} {t : List Char}
    (hs : s = c :: t) (hc : isAttrNameChar c = true) (h : readAttr blanks s = .part p rest) :
    p.source ++ rest = blanks ++ s ∧ p.source ≠ [] := by
  have hn : s.takeWhile isAttrNameChar ≠ [] := by simp [hs, hc]
  unfold readAttr at h
  dsimp only at h
  split at h
  · simp only [TagStep.part.injEq] at h
    obtain ⟨rfl, rfl⟩ := h
    refine ⟨?_, by simp [Part.source, hn]⟩
    rw [Part.source, List.append_assoc, List.takeWhile_append_dropWhile]
  · next value source rest' hv =>
    simp only [TagStep.part.injEq] at h
    obtain ⟨rfl, rfl⟩ := h
    refine ⟨?_, by simp [Part.source, hn]⟩
    rw [Part.source, List.append_assoc, readValue_found hv, List.append_assoc,
      List.takeWhile_append_dropWhile]
  · simp at h

/-- The source of a part and what follows it make up the text, and the source is not empty. -/
theorem readStep_part {s rest : List Char} {p : Part} (h : readStep s = .part p rest) :
    p.source ++ rest = s ∧ p.source ≠ [] := by
  unfold readStep at h
  dsimp only at h
  have hs := List.takeWhile_append_dropWhile (p := isMarkupBlank) (l := s)
  split at h
  · simp at h
  · simp at h
  · simp at h
  · next c t _ _ ht =>
    rw [ht] at hs
    split at h
    · next hc =>
      obtain ⟨h1, h2⟩ := readAttr_part rfl hc h
      exact ⟨h1.trans hs, h2⟩
    · simp only [TagStep.part.injEq] at h
      obtain ⟨rfl, rfl⟩ := h
      exact ⟨by simpa [Part.source] using hs, by simp [Part.source]⟩

theorem readStep_tail {s source rest : List Char} {selfClosing : Bool}
    (h : readStep s = .tail source selfClosing rest) : source ++ rest = s := by
  unfold readStep at h
  dsimp only at h
  have hs := List.takeWhile_append_dropWhile (p := isMarkupBlank) (l := s)
  split at h
  · simp at h
  · next ht =>
    simp only [TagStep.tail.injEq] at h
    obtain ⟨rfl, -, rfl⟩ := h
    simpa [ht] using hs
  · next ht =>
    simp only [TagStep.tail.injEq] at h
    obtain ⟨rfl, -, rfl⟩ := h
    simpa [ht] using hs
  · split at h
    · unfold readAttr at h
      dsimp only at h
      split at h <;> simp at h
    · simp at h

theorem length_lt_of_readStep {s rest : List Char} {p : Part} (h : readStep s = .part p rest) :
    rest.length < s.length := by
  obtain ⟨h1, h2⟩ := readStep_part h
  rw [← h1, List.length_append]
  have := List.length_pos_iff.mpr h2
  omega

/-- Reads the parts of a tag up to its end, with those read already, last first. -/
def readPartsFrom (name : List Char) (done : List Part) (s : List Char) :
    Option (OpenTag × List Char) :=
  match _h : readStep s with
  | .part p rest => readPartsFrom name (p :: done) rest
  | .tail source selfClosing rest => some (⟨name, done.reverse, source, selfClosing⟩, rest)
  | .unfinished => none
termination_by s.length
decreasing_by exact length_lt_of_readStep (by assumption)

/-- Reads an opening tag behind its first character. -/
def readOpenTag (s : List Char) : Option (OpenTag × List Char) :=
  readPartsFrom (s.takeWhile isNameChar) [] (s.dropWhile isNameChar)

theorem readPartsFrom_eq_some {name s rest : List Char} {done : List Part} {t : OpenTag}
    (h : readPartsFrom name done s = some (t, rest)) :
    t.source ++ rest = '<' :: name ++ done.reverse.flatMap Part.source ++ s := by
  fun_induction readPartsFrom name done s with
  | case1 done s p rest' hp ih =>
    rw [ih h, ← (readStep_part hp).1]
    simp
  | case2 done s source selfClosing rest' hp =>
    simp only [Option.some.injEq, Prod.mk.injEq] at h
    obtain ⟨rfl, rfl⟩ := h
    rw [← readStep_tail hp, OpenTag.source]
    simp
  | case3 => simp at h

theorem readOpenTag_eq_some {s rest : List Char} {t : OpenTag}
    (h : readOpenTag s = some (t, rest)) : t.source ++ rest = '<' :: s := by
  rw [readPartsFrom_eq_some h]
  simp

end Stencil.Markup
