import Stencil.Markup.Element
import Stencil.Proofs.Concatenation

/-!
Replacement read along the text. Plain text in front of a text is passed unchanged by the search for
a closing tag, by the replacement of elements and by the replacement of tags; a comment or a tag at
the front is what each of them decides on, and the rest of the text is then treated by itself.
-/
namespace Stencil.Markup

open Text

/-! ### Segments from the front -/

theorem reverse_addText (plain : List Char) (done : List Segment) :
    (addText plain done).reverse = done.reverse ++ (addText plain []).reverse := by
  unfold addText
  split <;> simp

theorem segmentsFrom_eq_append (done : List Segment) (plain s : List Char) :
    segmentsFrom done plain s = done.reverse ++ segmentsFrom [] plain s := by
  match s with
  | [] => rw [segmentsFrom, segmentsFrom, reverse_addText]
  | c :: s =>
    rw [segmentsFrom, segmentsFrom]
    split
    · split
      · next segment rest h =>
        have hle := length_le_of_readMarkup h
        rw [segmentsFrom_eq_append (segment :: addText plain done),
          segmentsFrom_eq_append (segment :: addText plain [])]
        simp [reverse_addText plain done]
      · exact segmentsFrom_eq_append done _ s
    · exact segmentsFrom_eq_append done _ s
termination_by s.length
decreasing_by all_goals simp only [List.length_cons]; omega

theorem segments_nil : segments [] = [] := by
  simp [segments, segmentsFrom, addText]

theorem segmentsFrom_markup {s rest : List Char} {segment : Segment} (plain : List Char)
    (h : readMarkup s = some (segment, rest)) :
    segmentsFrom [] plain ('<' :: s) = (addText plain []).reverse ++ segment :: segments rest := by
  rw [segmentsFrom]
  simp only [beq_self_eq_true, ↓reduceIte]
  split
  · next h' =>
    rw [h] at h'
    simp only [Option.some.injEq, Prod.mk.injEq] at h'
    obtain ⟨rfl, rfl⟩ := h'
    rw [segmentsFrom_eq_append]
    simp [segments]
  · next h' => simp [h] at h'

theorem segmentsFrom_char {c : Char} {s : List Char} (plain : List Char)
    (h : c = '<' → readMarkup s = none) :
    segmentsFrom [] plain (c :: s) = segmentsFrom [] (c :: plain) s := by
  rw [segmentsFrom]
  split
  · next hc =>
    split
    · next h' => simp [h (beq_iff_eq.mp hc)] at h'
    · rfl
  · rfl

theorem segments_markup {s rest : List Char} {segment : Segment}
    (h : readMarkup s = some (segment, rest)) :
    segments ('<' :: s) = segment :: segments rest := by
  rw [segments, segmentsFrom_markup [] h]
  rfl

/-- Something read off segments, to which plain text adds in the same way however it is cut. -/
structure TextFold (β : Type) where
  read : List Segment → β
  add : List Char → β → β
  add_nil : ∀ x, add [] x = x
  add_append : ∀ a b x, add (a ++ b) x = add a (add b x)
  read_text : ∀ a rest, read (.text a :: rest) = add a (read rest)

namespace TextFold

variable {β : Type} (f : TextFold β)

theorem read_addText (plain : List Char) (rest : List Segment) :
    f.read ((addText plain []).reverse ++ rest) = f.add plain.reverse (f.read rest) := by
  unfold addText
  split
  · next h => simp [List.isEmpty_iff.mp h, f.add_nil]
  · simp [f.read_text]

theorem read_segmentsFrom (plain s : List Char) :
    f.read (segmentsFrom [] plain s) = f.add plain.reverse (f.read (segments s)) := by
  match s with
  | [] =>
    have h := f.read_addText plain []
    simpa [segmentsFrom, segments_nil] using h
  | c :: s =>
    by_cases hc : c = '<' → readMarkup s = none
    · rw [segments, segmentsFrom_char plain hc, segmentsFrom_char [] hc,
        read_segmentsFrom (c :: plain) s, read_segmentsFrom [c] s, ← f.add_append,
        List.reverse_cons, List.reverse_singleton]
    · obtain ⟨rfl, hm⟩ := Classical.not_imp.mp hc
      obtain ⟨⟨segment, rest⟩, hm⟩ := Option.ne_none_iff_exists'.mp hm
      rw [segmentsFrom_markup plain hm, segments_markup hm, f.read_addText]
termination_by s.length

/-- Text in front adds to what is read. -/
theorem read_append {a : List Char} (s : List Char) (h : '<' ∉ a) :
    f.read (segments (a ++ s)) = f.add a (f.read (segments s)) := by
  induction a with
  | nil => rw [List.nil_append, f.add_nil]
  | cons c a ih =>
    rw [List.mem_cons, not_or] at h
    have hc : c = '<' → readMarkup (a ++ s) = none := fun he => absurd he.symm h.1
    rw [List.cons_append, segments, segmentsFrom_char [] hc, f.read_segmentsFrom, ih h.2,
      ← f.add_append]
    rfl

end TextFold

/-! ### Closing tags -/

private theorem pairFrom_zero {name source : List Char} {segment : Segment}
    (passed rest : List Segment) (h : segment.closing? name = some source) :
    pairFrom name 0 passed (segment :: rest) = some ⟨passed.reverse, source, rest⟩ := by
  unfold pairFrom
  simp only [h]

private theorem pairFrom_succ {name source : List Char} {segment : Segment} (depth : Nat)
    (passed rest : List Segment) (h : segment.closing? name = some source) :
    pairFrom name (depth + 1) passed (segment :: rest) =
      pairFrom name depth (segment :: passed) rest := by
  rw [pairFrom.eq_def]
  simp only [h]

private theorem pairFrom_cons {name : List Char} {segment : Segment} (depth : Nat)
    (passed rest : List Segment) (h : segment.closing? name = none) :
    pairFrom name depth passed (segment :: rest) =
      pairFrom name (if segment.opens name then depth + 1 else depth) (segment :: passed) rest := by
  rw [pairFrom.eq_def]
  simp only [h]

theorem pairFrom_passed (name : List Char) (depth : Nat) (passed segments : List Segment) :
    pairFrom name depth passed segments =
      (pairFrom name depth [] segments).map fun p =>
        ⟨passed.reverse ++ p.inner, p.closing, p.rest⟩ := by
  induction segments generalizing depth passed with
  | nil => rfl
  | cons segment segments ih =>
    cases hc : segment.closing? name with
    | some source =>
      cases depth with
      | zero => simp [pairFrom_zero _ _ hc]
      | succ depth =>
        rw [pairFrom_succ _ _ _ hc, pairFrom_succ _ _ _ hc, ih depth (segment :: passed),
          ih depth [segment]]
        simp [Function.comp_def]
    | none =>
      rw [pairFrom_cons _ _ _ hc, pairFrom_cons _ _ _ hc, ih _ (segment :: passed), ih _ [segment]]
      simp [Function.comp_def]

/-- What stands before a closing tag, that tag, and the segments behind it. -/
structure Closing where
  inner : List Char
  closing : List Char
  rest : List Segment

/-- Text in front of a closing tag. -/
def Closing.behind (a : List Char) (c : Closing) : Closing := ⟨a ++ c.inner, c.closing, c.rest⟩

theorem Closing.map_behind_nil (c : Option Closing) : c.map (behind []) = c := by
  cases c <;> rfl

theorem Closing.map_behind_map (a b : List Char) (c : Option Closing) :
    (c.map (behind b)).map (behind a) = c.map (behind (a ++ b)) := by
  cases c <;> simp [behind]

def Pairing.toClosing (p : Pairing) : Closing := ⟨sources p.inner, p.closing, p.rest⟩

/-- Finds the closing tag of a name behind `depth` further elements of that name. -/
def closingIn (name : List Char) (depth : Nat) (segments : List Segment) : Option Closing :=
  (pairFrom name depth [] segments).map Pairing.toClosing

theorem closingIn_nil (name : List Char) (depth : Nat) : closingIn name depth [] = none := rfl

theorem pairFrom_singleton (name : List Char) (depth : Nat) (segment : Segment)
    (segments : List Segment) :
    (pairFrom name depth [segment] segments).map Pairing.toClosing =
      (closingIn name depth segments).map (Closing.behind segment.source) := by
  rw [pairFrom_passed]
  simp [closingIn, Function.comp_def, Pairing.toClosing, Closing.behind, sources]

/-- The closing tag that is looked for. -/
theorem closingIn_zero {name source : List Char} {segment : Segment}
    (h : segment.closing? name = some source) (rest : List Segment) :
    closingIn name 0 (segment :: rest) = some ⟨[], source, rest⟩ := by
  rw [closingIn, pairFrom_zero _ _ h]
  rfl

/-- A closing tag of an inner element. -/
theorem closingIn_succ {name source : List Char} {segment : Segment} (depth : Nat)
    (h : segment.closing? name = some source) (rest : List Segment) :
    closingIn name (depth + 1) (segment :: rest) =
      (closingIn name depth rest).map (Closing.behind segment.source) := by
  rw [closingIn, pairFrom_succ _ _ _ h]
  exact pairFrom_singleton name depth segment rest

/-- Everything else is passed; an opening tag of the name has to be closed first. -/
theorem closingIn_cons {name : List Char} {segment : Segment} (depth : Nat)
    (h : segment.closing? name = none) (rest : List Segment) :
    closingIn name depth (segment :: rest) =
      (closingIn name (if segment.opens name then depth + 1 else depth) rest).map
        (Closing.behind segment.source) := by
  rw [closingIn, pairFrom_cons _ _ _ h]
  exact pairFrom_singleton name _ segment rest

/-- The search for a closing tag as something read off segments. -/
def closingFold (name : List Char) (depth : Nat) : TextFold (Option Closing) where
  read := closingIn name depth
  add a c := c.map (Closing.behind a)
  add_nil c := Closing.map_behind_nil c
  add_append a b c := (Closing.map_behind_map a b c).symm
  read_text _ rest := closingIn_cons depth rfl rest

theorem closingIn_append {a : List Char} (name : List Char) (depth : Nat) (s : List Char)
    (h : '<' ∉ a) :
    closingIn name depth (segments (a ++ s)) =
      (closingIn name depth (segments s)).map (Closing.behind a) :=
  (closingFold name depth).read_append s h

theorem pair?_eq_some_of_closingIn {name : List Char} {segments : List Segment} {c : Closing}
    (h : closingIn name 0 segments = some c) :
    ∃ p, pair? name segments = some p ∧ sources p.inner = c.inner ∧ p.closing = c.closing ∧
      p.rest = c.rest := by
  obtain ⟨p, hp, rfl⟩ := Option.map_eq_some_iff.mp h
  exact ⟨p, hp, rfl, rfl, rfl⟩

/-! ### Elements -/

theorem piecesFrom_eq_append {α : Type} (mark? : OpenTag → Option α) (done : List (Piece α))
    (segments : List Segment) :
    piecesFrom mark? done segments = done.reverse ++ piecesFrom mark? [] segments := by
  match segments with
  | [] => simp [piecesFrom]
  | .openTag t :: rest =>
    rw [piecesFrom, piecesFrom]
    split
    · rw [piecesFrom_eq_append mark? (_ :: done) rest, piecesFrom_eq_append mark? [_] rest]
      simp
    · next mark hm =>
      split
      · rw [piecesFrom_eq_append mark? (_ :: done) rest, piecesFrom_eq_append mark? [_] rest]
        simp
      · split
        · next p hp =>
          have hlt := length_lt_of_pairFrom hp
          rw [piecesFrom_eq_append mark? (_ :: done) p.rest, piecesFrom_eq_append mark? [_] p.rest]
          simp
        · rw [piecesFrom_eq_append mark? (_ :: done) rest, piecesFrom_eq_append mark? [_] rest]
          simp
  | .text source :: rest | .comment source :: rest | .closeTag _ source :: rest =>
    simp only [piecesFrom]
    rw [piecesFrom_eq_append mark? (_ :: done) rest, piecesFrom_eq_append mark? [_] rest]
    simp
termination_by segments.length
decreasing_by all_goals simp only [List.length_cons]; omega

/-- A segment that is not a marked tag. -/
def Unmarked {α : Type} (mark? : OpenTag → Option α) (segment : Segment) : Prop :=
  ∀ t, segment = .openTag t → mark? t = none

theorem unmarked_openTag {α : Type} {mark? : OpenTag → Option α} {t : OpenTag}
    (h : mark? t = none) : Unmarked mark? (.openTag t) := by
  rintro u hu
  rwa [← Segment.openTag.inj hu]

theorem piecesFrom_unmarked {α : Type} {mark? : OpenTag → Option α} {segment : Segment}
    (h : Unmarked mark? segment) (rest : List Segment) :
    piecesFrom mark? [] (segment :: rest) = .kept segment.source :: piecesFrom mark? [] rest := by
  cases segment with
  | openTag t =>
    rw [piecesFrom, h t rfl]
    exact piecesFrom_eq_append mark? [_] rest
  | text source | comment source | closeTag _ source =>
    rw [piecesFrom]
    · exact piecesFrom_eq_append mark? [_] rest
    · simp

theorem piecesFrom_element {α : Type} {mark? : OpenTag → Option α} {t : OpenTag} {mark : α}
    {rest : List Segment} {c : Closing} (hm : mark? t = some mark) (ht : t.isEmptyElement = false)
    (hc : closingIn t.name 0 rest = some c) :
    piecesFrom mark? [] (.openTag t :: rest) =
      .element mark ⟨t, c.inner, c.closing⟩ :: piecesFrom mark? [] c.rest := by
  obtain ⟨p, hp, hinner, hclosing, hrest⟩ := pair?_eq_some_of_closingIn hc
  rw [piecesFrom]
  simp only [hm, ht, Bool.false_eq_true, ↓reduceIte]
  split
  · next p' hp' =>
    obtain rfl : p' = p := by simpa [hp'] using hp
    rw [piecesFrom_eq_append, hinner, hclosing, hrest]
    rfl
  · next hp' => simp [hp'] at hp

theorem piecesFrom_emptyElement {α : Type} {mark? : OpenTag → Option α} {t : OpenTag} {mark : α}
    (rest : List Segment) (hm : mark? t = some mark) (ht : t.isEmptyElement = true) :
    piecesFrom mark? [] (.openTag t :: rest) =
      .element mark ⟨t, [], []⟩ :: piecesFrom mark? [] rest := by
  rw [piecesFrom]
  simp only [hm, ht, ↓reduceIte]
  rw [piecesFrom_eq_append]
  rfl

theorem piecesFrom_unclosed {α : Type} {mark? : OpenTag → Option α} {t : OpenTag} {mark : α}
    {rest : List Segment} (hm : mark? t = some mark) (ht : t.isEmptyElement = false)
    (hc : pair? t.name rest = none) :
    piecesFrom mark? [] (.openTag t :: rest) = .unclosed mark t :: piecesFrom mark? [] rest := by
  rw [piecesFrom]
  simp only [hm, ht, Bool.false_eq_true, ↓reduceIte]
  split
  · next p hp => simp [hc] at hp
  · rw [piecesFrom_eq_append]
    rfl

namespace Replacement

variable {α ε : Type} (r : Replacement α ε)

theorem assemble_eq_map (done : List (List Char)) (pieces : List (Piece α)) :
    r.assemble done pieces = (r.assemble [] pieces).map (done.reverse.flatten ++ ·) := by
  induction pieces generalizing done with
  | nil => simp [assemble, Except.map]
  | cons piece pieces ih =>
    cases piece with
    | kept source =>
      rw [assemble, assemble, ih (source :: done), ih [source]]
      cases r.assemble [] pieces <;> simp [Except.map]
    | element mark e =>
      rw [assemble, assemble]
      cases r.replace mark e with
      | error f => rfl
      | ok text =>
        simp only [bind, Except.bind]
        rw [ih (text :: done), ih [text]]
        cases r.assemble [] pieces <;> simp [Except.map]
    | unclosed mark t =>
      rw [assemble, assemble]
      cases r.unclosed mark with
      | error f => rfl
      | ok policy =>
        cases policy with
        | dropTag => exact ih done
        | dropRest => simp [bind, Except.bind, pure, Except.pure, Except.map]

/-- Replaces the outermost elements with a marked tag among segments. -/
def run (segments : List Segment) : Except ε (List Char) :=
  r.assemble [] (piecesFrom r.mark? [] segments)

theorem apply_eq_run (s : List Char) : r.apply s = r.run (segments s) := rfl

theorem run_nil : r.run [] = .ok [] := by
  simp [run, piecesFrom, assemble]

theorem run_unmarked {segment : Segment} (h : Unmarked r.mark? segment) (rest : List Segment) :
    r.run (segment :: rest) = (r.run rest).map (segment.source ++ ·) := by
  rw [run, piecesFrom_unmarked h, assemble, assemble_eq_map]
  simp [run]

private theorem assemble_element (mark : α) (el : Element) (pieces : List (Piece α)) :
    r.assemble [] (.element mark el :: pieces) =
      (r.replace mark el).bind fun text => (r.assemble [] pieces).map (text ++ ·) := by
  rw [assemble]
  simp only [bind, Except.bind]
  cases r.replace mark el with
  | error f => rfl
  | ok text =>
    simp only
    rw [assemble_eq_map]
    simp

/-- A marked element is handed to the rule, and what follows it is treated by itself. -/
theorem run_element {t : OpenTag} {mark : α} {rest : List Segment} {c : Closing}
    (hm : r.mark? t = some mark) (ht : t.isEmptyElement = false)
    (hc : closingIn t.name 0 rest = some c) :
    r.run (.openTag t :: rest) =
      (r.replace mark ⟨t, c.inner, c.closing⟩).bind fun text =>
        (r.run c.rest).map (text ++ ·) := by
  rw [run, piecesFrom_element hm ht hc, assemble_element]
  rfl

theorem run_emptyElement {t : OpenTag} {mark : α} (rest : List Segment)
    (hm : r.mark? t = some mark) (ht : t.isEmptyElement = true) :
    r.run (.openTag t :: rest) =
      (r.replace mark ⟨t, [], []⟩).bind fun text => (r.run rest).map (text ++ ·) := by
  rw [run, piecesFrom_emptyElement rest hm ht, assemble_element]
  rfl

theorem run_unclosed {t : OpenTag} {mark : α} {rest : List Segment}
    (hm : r.mark? t = some mark) (ht : t.isEmptyElement = false)
    (hc : pair? t.name rest = none) :
    r.run (.openTag t :: rest) =
      (r.unclosed mark).bind fun policy =>
        match policy with
        | .dropTag => r.run rest
        | .dropRest => .ok [] := by
  rw [run, piecesFrom_unclosed hm ht hc, assemble]
  simp only [bind, Except.bind]
  cases r.unclosed mark with
  | error f => rfl
  | ok policy => cases policy <;> rfl

/-- The replacement as something read off segments. -/
def fold : TextFold (Except ε (List Char)) where
  read := r.run
  add a x := x.map (a ++ ·)
  add_nil x := map_nil_append x
  add_append a b x := (map_append_map a b x).symm
  read_text a rest := r.run_unmarked (fun _ h => by simp at h) rest

/-- Plain text in front stays as it is. -/
theorem apply_append {a : List Char} (s : List Char) (h : '<' ∉ a) :
    r.apply (a ++ s) = (r.apply s).map (a ++ ·) :=
  r.fold.read_append s h

theorem apply_of_notMem {s : List Char} (h : '<' ∉ s) : r.apply s = .ok s := by
  have happend := r.apply_append [] h
  rw [List.append_nil] at happend
  rw [happend, apply_eq_run, segments_nil, run_nil]
  simp [Except.map]

/-- Nothing changes in a text without marked tags. -/
theorem run_of_unmarked {l : List Segment} (h : ∀ segment ∈ l, Unmarked r.mark? segment) :
    r.run l = .ok (sources l) := by
  induction l with
  | nil => exact r.run_nil
  | cons segment rest ih =>
    rw [r.run_unmarked (h segment (List.mem_cons_self ..)),
      ih fun s hs => h s (List.mem_cons_of_mem _ hs)]
    rfl

theorem apply_of_unmarked {s : List Char} (h : ∀ segment ∈ segments s, Unmarked r.mark? segment) :
    r.apply s = .ok s := by
  rw [apply_eq_run, r.run_of_unmarked h, sources_segments]

end Replacement

/-! ### Tags -/

section Tags

variable {ε : Type} (edit : OpenTag → Except ε (List Char))

/-- The text of a segment whose tag is edited. -/
def Segment.edited : Segment → Except ε (List Char)
  | .openTag t => edit t
  | segment => .ok segment.source

theorem OpenTag.rebuild_eq_map (t : OpenTag) (edit : Attr → Except ε Edit) :
    t.rebuild edit =
      (concatM (Part.edited edit) t.parts).map fun s => '<' :: t.name ++ s ++ t.tail := by
  rw [OpenTag.rebuild, concatM]
  cases t.parts.mapM (Part.edited edit) <;> rfl

theorem replaceTags_eq_concatM (s : List Char) :
    replaceTags edit s = concatM (Segment.edited edit) (segments s) := rfl

/-- The editing of tags as something read off segments. -/
def editFold : TextFold (Except ε (List Char)) where
  read := concatM (Segment.edited edit)
  add a x := x.map (a ++ ·)
  add_nil x := map_nil_append x
  add_append a b x := (map_append_map a b x).symm
  read_text a rest := concatM_cons (Segment.edited edit) (.text a) rest

theorem replaceTags_append {a : List Char} (s : List Char) (h : '<' ∉ a) :
    replaceTags edit (a ++ s) = (replaceTags edit s).map (a ++ ·) := by
  rw [replaceTags_eq_concatM, replaceTags_eq_concatM]
  exact (editFold edit).read_append s h

/-- A tag at the front is edited, and what follows it is treated by itself. -/
theorem replaceTags_markup {s rest : List Char} {segment : Segment}
    (h : readMarkup s = some (segment, rest)) :
    replaceTags edit ('<' :: s) =
      (segment.edited edit).bind fun text => (replaceTags edit rest).map (text ++ ·) := by
  rw [replaceTags_eq_concatM, replaceTags_eq_concatM, segments_markup h, concatM_cons]

/-- Nothing changes where every tag is written again as it was. -/
theorem replaceTags_of_unchanged {s : List Char}
    (h : ∀ t, .openTag t ∈ segments s → edit t = .ok t.source) : replaceTags edit s = .ok s := by
  have hsegment : ∀ segment ∈ segments s, segment.edited edit = .ok segment.source := by
    intro segment hmem
    cases segment with
    | openTag t => exact h t hmem
    | text source | comment source | closeTag _ source => rfl
  rw [replaceTags_eq_concatM, concatM_eq_ok hsegment]
  exact congrArg _ (sources_segments s)

end Tags

end Stencil.Markup
