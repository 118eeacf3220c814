import Stencil.Markup.TagReading

/-!
Markup as a sequence of segments: plain text, comments, opening tags and closing tags. Every text
can be read in this way, since whatever is no complete comment or tag is plain text, and the sources
of the segments make up the text again.
-/
namespace Stencil.Markup

open Text

inductive Segment where
  | text (source : List Char)
  | comment (source : List Char)
  | openTag (t : OpenTag)
  | closeTag (name source : List Char)
  deriving DecidableEq, Repr

def Segment.source : Segment → List Char
  | .text source => source
  | .comment source => source
  | .openTag t => t.source
  | .closeTag _ source => source

/-- The text of segments in a row. -/
def sources (segments : List Segment) : List Char := segments.flatMap Segment.source

theorem sources_cons (segment : Segment) (l : List Segment) :
    sources (segment :: l) = segment.source ++ sources l := rfl

theorem sources_append (a b : List Segment) : sources (a ++ b) = sources a ++ sources b :=
  List.flatMap_append

/-- The start of a comment. -/
def commentStart : List Char := ['<', '!', '-', '-']

/-- The end of a comment. -/
def commentEnd : List Char := ['-', '-', '>']

/-- Reads a comment behind its start; without an end it takes the whole text. -/
def readComment (s : List Char) : Segment × List Char :=
  match cut commentEnd s with
  | some (content, rest) => (.comment (commentStart ++ content ++ commentEnd), rest)
  | none => (.comment (commentStart ++ s), [])

/-- Reads a closing tag behind its slash. What stands between the name and the end is ignored. -/
def readCloseTag (s : List Char) : Option (Segment × List Char) :=
  if (s.takeWhile isNameChar).isEmpty then none
  else
    match cut ['>'] s with
    | some (content, rest) =>
      some (.closeTag (s.takeWhile isNameChar) ('<' :: '/' :: content ++ ['>']), rest)
    | none => none

/-- Reads a comment or a tag behind its first character. -/
def readMarkup : List Char → Option (Segment × List Char)
  | '!' :: '-' :: '-' :: s => some (readComment s)
  | '/' :: s => readCloseTag s
  | c :: s =>
    if isAsciiLetter c then (readOpenTag (c :: s)).map fun r => (.openTag r.1, r.2) else none
  | [] => none

theorem readComment_source (s : List Char) :
    (readComment s).1.source ++ (readComment s).2 = commentStart ++ s := by
  unfold readComment
  split
  · next h => simp [Segment.source, cut_eq_some h]
  · simp [Segment.source]

theorem readCloseTag_eq_some {s rest : List Char} {segment : Segment}
    (h : readCloseTag s = some (segment, rest)) : segment.source ++ rest = '<' :: '/' :: s := by
  unfold readCloseTag at h
  split at h
  · simp at h
  · split at h
    · next hc =>
      simp only [Option.some.injEq, Prod.mk.injEq] at h
      obtain ⟨rfl, rfl⟩ := h
      simp [Segment.source, cut_eq_some hc]
    · simp at h

theorem source_ne_nil_of_readMarkup {s rest : List Char} {segment : Segment}
    (h : readMarkup s = some (segment, rest)) : segment.source ≠ [] := by
  unfold readMarkup readComment readCloseTag at h
  split at h
  · split at h <;>
    · simp only [Option.some.injEq, Prod.mk.injEq] at h
      simp [← h.1, Segment.source, commentStart]
  · split at h
    · simp at h
    · split at h
      · simp only [Option.some.injEq, Prod.mk.injEq] at h
        simp [← h.1, Segment.source]
      · simp at h
  · split at h
    · obtain ⟨r, -, h⟩ := Option.map_eq_some_iff.mp h
      simp only [Prod.mk.injEq] at h
      simp [← h.1, Segment.source, OpenTag.source]
    · simp at h
  · simp at h

/-- The source of a comment or tag and what follows it make up the text. -/
theorem readMarkup_eq_some {s rest : List Char} {segment : Segment}
    (h : readMarkup s = some (segment, rest)) : segment.source ++ rest = '<' :: s := by
  unfold readMarkup at h
  split at h
  · next s =>
    simp only [Option.some.injEq] at h
    have := readComment_source s
    rw [h] at this
    exact this
  · exact readCloseTag_eq_some h
  · split at h
    · obtain ⟨r, hr, h⟩ := Option.map_eq_some_iff.mp h
      simp only [Prod.mk.injEq] at h
      obtain ⟨rfl, rfl⟩ := h
      exact readOpenTag_eq_some hr
    · simp at h
  · simp at h

theorem length_le_of_readMarkup {s rest : List Char} {segment : Segment}
    (h : readMarkup s = some (segment, rest)) : rest.length ≤ s.length := by
  have h1 := congrArg List.length (readMarkup_eq_some h)
  have h2 := List.length_pos_iff.mpr (source_ne_nil_of_readMarkup h)
  simp only [List.length_append, List.length_cons] at h1
  omega

/-- Puts plain text, last character first, in front of segments that are last first, too. -/
def addText (plain : List Char) (done : List Segment) : List Segment :=
  if plain.isEmpty then done else .text plain.reverse :: done

/-- The reading behind `segments`, with the segments so far, last first, and the plain text behind
them, last character first. -/
def segmentsFrom (done : List Segment) (plain : List Char) : List Char → List Segment
  | [] => (addText plain done).reverse
  | c :: s =>
    if c == '<' then
      match _h : readMarkup s with
      | some (segment, rest) => segmentsFrom (segment :: addText plain done) [] rest
      | none => segmentsFrom done (c :: plain) s
    else segmentsFrom done (c :: plain) s
termination_by s => s.length
decreasing_by
  · exact Nat.lt_succ_of_le (length_le_of_readMarkup (by assumption))
  · exact Nat.lt_succ_self _
  · exact Nat.lt_succ_self _

/-- The segments of a text. -/
def segments (s : List Char) : List Segment := segmentsFrom [] [] s

theorem sources_addText (plain : List Char) (done : List Segment) :
    sources (addText plain done).reverse = sources done.reverse ++ plain.reverse := by
  unfold addText
  split
  · next h => simp [List.isEmpty_iff.mp h]
  · simp [sources, Segment.source]

theorem sources_segmentsFrom (done : List Segment) (plain s : List Char) :
    sources (segmentsFrom done plain s) = sources done.reverse ++ plain.reverse ++ s := by
  fun_induction segmentsFrom done plain s with
  | case1 done plain => simp [sources_addText]
  | case2 done plain c s hc segment rest h ih =>
    have hs := readMarkup_eq_some h
    rw [ih, beq_iff_eq.mp hc, ← hs]
    have := sources_addText plain done
    simp only [sources, List.reverse_cons, List.flatMap_append, List.flatMap_cons,
      List.flatMap_nil, List.reverse_nil, List.append_nil] at this ⊢
    rw [this, List.append_assoc]
  | case3 done plain c s _ _ ih => simp [ih]
  | case4 done plain c s _ ih => simp [ih]

/-- The segments of a text make it up. -/
theorem sources_segments (s : List Char) : sources (segments s) = s := by
  rw [segments, sources_segmentsFrom]
  simp [sources]

end Stencil.Markup
