import Mathlib.Data.List.Basic
import Mathlib.Logic.Function.Iterate
import Stencil.Proofs.Replacing
import Stencil.Proofs.Cutting
import Stencil.Render.Engine

/-!
The comment in the place of an output. Spaces between dashes keep the wording of an error from
ending the comment early, so that the comment closes at its very end and holds no tag.
-/
namespace Stencil

open Text Markup

/-! ### Dashes in a row -/

namespace Text

theorem containsPart_iff {part s : List Char} : containsPart part s = true ↔ part <:+: s := by
  rw [containsPart, Option.isSome_iff_ne_none, ne_eq, cut_eq_none_iff, Decidable.not_not]

theorem not_dashes_infix_spaceDashes (s : List Char) : ¬dashes <:+: spaceDashes s := by
  fun_induction spaceDashes s with
  | case1 s h ih => exact ih
  | case2 s h => exact fun hdashes => h (containsPart_iff.mpr hdashes)

/-- The rounds in which pairs of dashes are parted come to an end. -/
theorem exists_rounds (s : List Char) :
    ∃ n, n ≤ dashPairs s ∧ spaceDashes s = partDashes^[n] s := by
  fun_induction spaceDashes s with
  | case1 s h ih =>
    obtain ⟨n, hn, hrounds⟩ := ih
    have hlt := dashPairs_partDashes_lt h
    exact ⟨n + 1, by omega, hrounds⟩
  | case2 s h => exact ⟨0, Nat.zero_le _, rfl⟩

theorem filter_partDashes (s : List Char) :
    (partDashes s).filter (· ≠ ' ') = s.filter (· ≠ ' ') := by
  match h : cut dashes s with
  | none => rw [partDashes_of_cut_eq_none h]
  | some (a, b) =>
    have hlt := length_lt_of_cut (List.cons_ne_nil _ _) h
    have hs : s = a ++ dashes ++ b := cut_eq_some h
    rw [partDashes_of_cut h, List.filter_append, filter_partDashes b, hs]
    simp [dashes]
termination_by s.length

/-- Nothing but spaces is put in. -/
theorem filter_spaceDashes (s : List Char) :
    (spaceDashes s).filter (· ≠ ' ') = s.filter (· ≠ ' ') := by
  fun_induction spaceDashes s with
  | case1 s h ih => exact ih.trans (filter_partDashes s)
  | case2 s h => rfl

theorem length_spaceDashes_le (s : List Char) :
    (spaceDashes s).length ≤ s.length + dashPairs s := by
  fun_induction spaceDashes s with
  | case1 s h ih =>
    have hsum := length_add_dashPairs s
    omega
  | case2 s h => omega

theorem dashPairs_le_length (s : List Char) : dashPairs s ≤ s.length := by
  fun_induction dashPairs s with
  | case1 c d s ih =>
    simp only [List.length_cons] at ih ⊢
    split <;> omega
  | case2 s => exact Nat.zero_le _

/-- A text in two parts with another character between them has its pairs of dashes in the parts. -/
theorem dashes_infix_append_cons {a b : List Char} {c : Char} (hc : c ≠ '-')
    (h : dashes <:+: a ++ c :: b) : dashes <:+: a ∨ dashes <:+: b := by
  induction a with
  | nil =>
    rcases List.infix_cons_iff.mp h with hstart | hrest
    · exact absurd (List.cons_prefix_cons.mp hstart).1.symm hc
    · exact Or.inr hrest
  | cons d a ih =>
    rcases List.infix_cons_iff.mp h with hstart | hrest
    · obtain ⟨rfl, hnext⟩ := List.cons_prefix_cons.mp hstart
      cases a with
      | nil => exact absurd (List.cons_prefix_cons.mp hnext).1.symm hc
      | cons e a =>
        obtain ⟨rfl, -⟩ := List.cons_prefix_cons.mp hnext
        exact Or.inl ⟨[], a, rfl⟩
    · exact (ih hrest).imp_left fun hinside => hinside.trans (List.suffix_cons d a).isInfix

end Text

/-! ### Comments that close at their end -/

namespace Markup

/-- A comment that closes at its end and no earlier, so that a scan finds it and nothing else. -/
structure IsClosedComment (s : List Char) : Prop where
  starts : commentStart <+: s
  ends : commentEnd <:+ s
  closes_once : ∀ before behind, s = before ++ commentEnd ++ behind → behind = []
  scanned : segments s = [.comment s]

/-- The end of a comment is not found before a text without dashes in a row. -/
theorem cut_commentEnd {content : List Char} (h : ¬dashes <:+: content ++ ['-']) :
    cut commentEnd (content ++ commentEnd) = some (content, []) := by
  induction content with
  | nil => rfl
  | cons c content ih =>
    have hrest : ¬dashes <:+: content ++ ['-'] := fun hinside =>
      h (hinside.trans (List.suffix_cons c _).isInfix)
    have hbehind : behind? commentEnd (c :: (content ++ commentEnd)) = none := by
      cases hb : behind? commentEnd (c :: (content ++ commentEnd)) with
      | none => rfl
      | some after =>
        have heq := behind?_eq_some_iff.mp hb
        apply absurd _ h
        cases content with
        | nil =>
          simp only [commentEnd, List.nil_append, List.cons_append, List.cons.injEq] at heq
          exact ⟨[], [], by simp [dashes, heq.1]⟩
        | cons d content =>
          simp only [commentEnd, List.nil_append, List.cons_append, List.cons.injEq] at heq
          exact ⟨[], content ++ ['-'], by simp [dashes, heq.1, heq.2.1]⟩
    rw [List.cons_append, cut_cons, hbehind, ih hrest]
    rfl

/-- A text without dashes in a row makes up a closed comment if a blank stands in front. -/
theorem isClosedComment_of_content {content : List Char} (h : ¬dashes <:+: content ++ ['-']) :
    IsClosedComment (commentStart ++ ' ' :: (content ++ commentEnd)) := by
  have hblank : ¬dashes <:+: ' ' :: content ++ ['-'] := by
    intro hinside
    rcases dashes_infix_append_cons (a := []) (by decide) hinside with hnil | hrest
    · exact absurd hnil (by decide)
    · exact h hrest
  have hcontent : cut commentEnd (' ' :: (content ++ commentEnd)) = some (' ' :: content, []) :=
    cut_commentEnd hblank
  have hwhole : cut commentEnd (commentStart ++ ' ' :: (content ++ commentEnd)) =
      some (commentStart ++ ' ' :: content, []) := by
    simp only [commentStart, List.cons_append, List.nil_append]
    rw [cut_cons, cut_cons, cut_cons, cut_cons, hcontent]
    rfl
  refine ⟨List.prefix_append _ _, ⟨commentStart ++ ' ' :: content, by simp⟩, ?_, ?_⟩
  · intro before behind hs
    have hle := length_le_of_cut hwhole hs
    have hlength := congrArg List.length hs
    simp only [List.length_append, List.length_cons] at hle hlength
    exact List.length_eq_zero_iff.mp (by omega)
  · have hread : readMarkup ('!' :: '-' :: '-' :: ' ' :: (content ++ commentEnd)) =
        some (.comment (commentStart ++ ' ' :: content ++ commentEnd), []) := by
      rw [readMarkup, readComment, hcontent]
    have hscan := segments_markup hread
    rw [segments_nil] at hscan
    simpa [commentStart] using hscan

end Markup

namespace Render

theorem shortened_eq (s : List Char) :
    shortened s = s.take messageLimit ++ if messageLimit < s.length then "...".toList else [] := by
  unfold shortened
  by_cases h : s.length ≤ messageLimit
  · rw [if_pos h, if_neg (by omega), List.take_of_length_le h, List.append_nil]
  · rw [if_neg h, if_pos (by omega)]

theorem length_shortened_le (s : List Char) : (shortened s).length ≤ messageLimit + 3 := by
  have hdots : "...".toList.length = 3 := by decide
  rw [shortened_eq, List.length_append, List.length_take]
  split
  · omega
  · simp only [List.length_nil]
    omega

theorem length_commentText_le (message : List Char) :
    (commentText message).length ≤ 2 * (messageLimit + 3) := by
  have hspaced := length_spaceDashes_le (shortened message)
  have hpairs := dashPairs_le_length (shortened message)
  have hshort := length_shortened_le message
  unfold commentText
  omega

/-- The words in front of every message. -/
def messageLead : List Char :=
  ['T', 'e', 'm', 'p', 'l', 'a', 't', 'e', ' ', 'E', 'r', 'r', 'o', 'r', ':']

theorem toList_diagnostic (f : Fault RenderError) :
    (diagnostic f).toList = commentStart ++ ' ' :: (messageLead ++
      ' ' :: (commentText (faultMessage f).toList ++ [' ']) ++ commentEnd) := by
  unfold diagnostic
  simp [messageLead, commentStart, commentEnd]

theorem isClosedComment_diagnostic (f : Fault RenderError) :
    IsClosedComment (diagnostic f).toList := by
  have hwording : ¬dashes <:+: commentText (faultMessage f).toList :=
    not_dashes_infix_spaceDashes _
  rw [toList_diagnostic]
  apply isClosedComment_of_content
  intro hinside
  simp only [List.append_assoc, List.cons_append, List.nil_append] at hinside
  rcases dashes_infix_append_cons (by decide) hinside with hlead | hinside
  · exact absurd hlead (by decide)
  · rcases dashes_infix_append_cons (by decide) hinside with hdashes | hend
    · exact hwording hdashes
    · exact absurd hend (by decide)

end Render

namespace Engine

open Render

/-- A failure shows as one closed comment. Parting the dashes of a message ends after finitely many
rounds, with a text of bounded length that has no two dashes in a row and differs from the start of
the message in spaces only. The comment that takes the place of an output holds this text of the
failure's message, closes at its end, and a scan finds no tag in it. -/
theorem render_failure_isClosedComment (message : List Char) :
    ((∃ n, n ≤ dashPairs (shortened message) ∧
        commentText message = partDashes^[n] (shortened message)) ∧
      ¬dashes <:+: commentText message ∧
      (commentText message).length ≤ 406 ∧
      (commentText message).filter (· ≠ ' ') =
        (message.take 200 ++ if 200 < message.length then ['.', '.', '.'] else []).filter
          (· ≠ ' ')) ∧
    ∀ (e : Engine) (scope : Scope) (template : String) (f : Fault RenderError),
      e.config.diagnostics = true → e.tryRender scope template = .error f →
        IsClosedComment (e.render scope template).toList ∧
        ((faultMessage f).toList = message →
          e.render scope template =
            "<!-- Template Error: " ++ String.ofList (commentText message) ++ " -->") := by
  refine ⟨⟨exists_rounds _, not_dashes_infix_spaceDashes _, length_commentText_le message, ?_⟩, ?_⟩
  · have hdots : "...".toList = ['.', '.', '.'] := by simp only [String.reduceToList]
    rw [commentText, filter_spaceDashes, shortened_eq, hdots]
    rfl
  · intro e scope template f hshown hfails
    have hrender : e.render scope template = diagnostic f := by
      simp only [render, hfails, hshown, ↓reduceIte]
    rw [hrender]
    refine ⟨isClosedComment_diagnostic f, ?_⟩
    rintro rfl
    rfl

/-- An engine whose functions all abort with a text that tries to end the comment. -/
def abortingEngine : Engine :=
  ⟨⟨Registry.empty, fun _ _ => .error (.abort (some "bad -->--- <b>"))⟩, Config.default⟩

def abortingScope : Scope := Scope.root [("boom", .function 0)]

theorem render_failure_isClosedComment_abortingEngine :
    abortingEngine.render abortingScope "\x7b\x7b boom() \x7d\x7d" =
        "<!-- Template Error: panic during render: bad - ->- - - <b> -->" ∧
      IsClosedComment
        (abortingEngine.render abortingScope "\x7b\x7b boom() \x7d\x7d").toList ∧
      abortingEngine.render abortingScope "\x7b\x7b boom() \x7d\x7d" =
        "<!-- Template Error: " ++
          String.ofList (commentText "panic during render: bad -->--- <b>".toList) ++ " -->" := by
  have hfails : abortingEngine.tryRender abortingScope "\x7b\x7b boom() \x7d\x7d" =
      .error (.abort (some "bad -->--- <b>")) := by decide +kernel
  have hmessage : (faultMessage (.abort (some "bad -->--- <b>"))).toList =
      "panic during render: bad -->--- <b>".toList := by decide +kernel
  obtain ⟨-, hcomment⟩ :=
    render_failure_isClosedComment "panic during render: bad -->--- <b>".toList
  obtain ⟨hclosed, hholds⟩ := hcomment abortingEngine abortingScope _ _ rfl hfails
  refine ⟨?_, hclosed, hholds hmessage⟩
  simp only [render, hfails]
  decide +kernel

end Engine

end Stencil
