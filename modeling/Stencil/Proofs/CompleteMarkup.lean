import Stencil.Proofs.Concatenation
import Stencil.Proofs.ScannedTag

/-!
Complete markup: every `<` starts a tag or a comment with an end. Such a text does not merge with
what is written behind it, so that complete texts can be put one behind the other, and a replacement
can be followed tag by tag.
-/
namespace Stencil.Markup

open Text

variable {P Q : OpenTag → Prop} {a b s : List Char} {segment : Segment} {l : List Segment}
  {t : OpenTag}

/-- No `<` that starts nothing, and no comment that takes whatever follows it. -/
def Segment.IsComplete : Segment → Prop
  | .text source => '<' ∉ source
  | .comment source => (cut commentEnd (source.drop commentStart.length)).isSome = true
  | .openTag _ | .closeTag _ _ => True

instance : DecidablePred Segment.IsComplete
  | .text source => inferInstanceAs (Decidable ('<' ∉ source))
  | .comment _ => inferInstanceAs (Decidable (_ = true))
  | .openTag _ | .closeTag _ _ => inferInstanceAs (Decidable True)

def Complete (s : List Char) : Prop := ∀ segment ∈ segments s, segment.IsComplete

instance (s : List Char) : Decidable (Complete s) :=
  inferInstanceAs (Decidable (∀ segment ∈ segments s, segment.IsComplete))

/-- Plain text, or markup that is read in the same way whatever stands behind it. -/
def Segment.Framed : Segment → Prop
  | .text source => '<' ∉ source
  | segment => ∃ u, segment.source = '<' :: u ∧ ∀ y, readMarkup (u ++ y) = some (segment, y)

/-- Markup with an end is read in the same way whatever stands behind it. -/
theorem Segment.IsComplete.frame (h : segment.IsComplete) {u rest : List Char}
    (hu : readMarkup u = some (segment, rest)) :
    ∃ w, u = w ++ rest ∧ ∀ y, readMarkup (w ++ y) = some (segment, y) := by
  rcases readMarkup_frame hu with hframe | ⟨⟨content, rfl, hcut⟩, -⟩
  · exact hframe
  · have hend : (cut commentEnd ((commentStart ++ content).drop commentStart.length)).isSome =
        true := h
    rw [List.drop_left, hcut] at hend
    simp at hend

theorem Segment.IsComplete.framed (h : segment.IsComplete) (hmem : segment ∈ segments s) :
    segment.Framed := by
  rcases exists_readMarkup_of_mem_segmentsFrom hmem with hnil | ⟨source, rfl⟩ | ⟨u, rest, hu⟩
  · simp at hnil
  · exact h
  · have hframed : ∃ w, segment.source = '<' :: w ∧
        ∀ y, readMarkup (w ++ y) = some (segment, y) := by
      obtain ⟨w, rfl, hframe⟩ := h.frame hu
      have hsource := readMarkup_eq_some hu
      rw [← List.cons_append, List.append_cancel_right_eq] at hsource
      exact ⟨w, hsource, hframe⟩
    cases segment with
    | text source => exact h
    | comment source | openTag t | closeTag name source => exact hframed

/-- Complete markup, and what its tags are like. -/
def Marked (P : OpenTag → Prop) (s : List Char) : Prop :=
  ∀ segment ∈ segments s, segment.Framed ∧ ∀ t, segment = .openTag t → P t

/-- Complete markup as something read off segments. -/
def markedFold (P : OpenTag → Prop) : TextFold Prop where
  read l := ∀ segment ∈ l, segment.Framed ∧ ∀ t, segment = .openTag t → P t
  add a p := '<' ∉ a ∧ p
  add_nil p := by simp
  add_append a b p := by simp [not_or, and_assoc]
  read_text a rest := by simp [Segment.Framed]

theorem Complete.marked (h : Complete s) (hP : ∀ t, .openTag t ∈ segments s → P t) :
    Marked P s :=
  fun segment hmem => ⟨(h segment hmem).framed hmem, fun t ht => hP t (ht ▸ hmem)⟩

theorem marked_sources_append (hl : ∀ segment ∈ l, segment.Framed ∧ ∀ t, segment = .openTag t → P t)
    (hs : Marked P s) : Marked P (sources l ++ s) := by
  induction l with
  | nil => exact hs
  | cons segment l ih =>
    obtain ⟨hframed, htag⟩ := hl segment (List.mem_cons_self ..)
    have hrest := ih fun other hother => hl other (List.mem_cons_of_mem _ hother)
    have hsource : sources (segment :: l) ++ s = segment.source ++ (sources l ++ s) := by
      simp [sources]
    rw [hsource]
    cases segment with
    | text source =>
      exact ((markedFold P).read_append _ hframed).mpr ⟨hframed, hrest⟩
    | comment source | openTag t | closeTag name source =>
      obtain ⟨u, hu, hread⟩ := hframed
      intro other hother
      rw [hu, List.cons_append, segments_markup (hread _)] at hother
      rcases List.mem_cons.mp hother with rfl | hother
      · exact ⟨⟨u, hu, hread⟩, htag⟩
      · exact hrest other hother

namespace Marked

theorem nil : Marked P [] := by
  intro segment hmem
  rw [segments_nil] at hmem
  simp at hmem

theorem append (ha : Marked P a) (hb : Marked P b) : Marked P (a ++ b) := by
  have happend := marked_sources_append ha hb
  rwa [sources_segments] at happend

/-- The text of a part of complete markup. -/
theorem source (hframed : segment.Framed) (htag : ∀ t, segment = .openTag t → P t) :
    Marked P segment.source := by
  have hone : ∀ other ∈ [segment], other.Framed ∧ ∀ t, other = .openTag t → P t := by
    intro other hother
    obtain rfl := List.mem_singleton.mp hother
    exact ⟨hframed, htag⟩
  have happend := marked_sources_append hone nil
  rwa [List.append_nil, sources, List.flatMap_cons, List.flatMap_nil, List.append_nil] at happend

theorem of_scanned (h : t.Scanned) (ht : P t) : Marked P t.source := by
  have hframed : (Segment.openTag t).Framed := h.reading
  exact source hframed fun _ hu => Segment.openTag.inj hu ▸ ht

theorem scanned (h : Marked P s) (hmem : .openTag t ∈ segments s) : t.Scanned ∧ P t :=
  ⟨OpenTag.scanned_of_mem_segments hmem, (h _ hmem).2 t rfl⟩

theorem imp (h : Marked P s) (himp : ∀ t, P t → Q t) : Marked Q s :=
  fun segment hmem => ⟨(h segment hmem).1, fun t ht => himp t ((h segment hmem).2 t ht)⟩

end Marked

/-! ### Where the pieces of a text come from -/

theorem closeTag_of_closing? {name source : List Char} (h : segment.closing? name = some source) :
    ∃ n, segment = .closeTag n source := by
  cases segment with
  | closeTag n other =>
    rw [Segment.closing?] at h
    split at h
    · exact ⟨n, by rw [Option.some.inj h]⟩
    · simp at h
  | text other | comment other | openTag t => simp [Segment.closing?] at h

theorem mem_of_pairFrom {name : List Char} {depth : Nat} {passed : List Segment} {p : Pairing}
    (h : pairFrom name depth passed l = some p) :
    (∃ n, .closeTag n p.closing ∈ l) ∧ ∀ segment ∈ p.rest, segment ∈ l := by
  fun_induction pairFrom name depth passed l with
  | case1 => simp at h
  | case2 passed segment rest source hc =>
    obtain rfl := Option.some.inj h
    obtain ⟨n, rfl⟩ := closeTag_of_closing? hc
    exact ⟨⟨n, List.mem_cons_self ..⟩, fun _ hmem => List.mem_cons_of_mem _ hmem⟩
  | case3 passed segment rest source hc depth ih | case4 passed segment rest depth hc ih =>
    obtain ⟨⟨n, hn⟩, hrest⟩ := ih h
    exact ⟨⟨n, List.mem_cons_of_mem _ hn⟩, fun _ hmem => List.mem_cons_of_mem _ (hrest _ hmem)⟩

/-- A piece of these segments. -/
def Piece.Among {α : Type} (mark? : OpenTag → Option α) (l : List Segment) : Piece α → Prop
  | .kept source => ∃ segment ∈ l, Unmarked mark? segment ∧ segment.source = source
  | .element mark e =>
    .openTag e.tag ∈ l ∧ mark? e.tag = some mark ∧
      (e.closing = [] ∨ ∃ n, .closeTag n e.closing ∈ l)
  | .unclosed _ _ => True

theorem Piece.Among.mono {α : Type} {mark? : OpenTag → Option α} {more : List Segment}
    {piece : Piece α} (h : piece.Among mark? l) (hl : ∀ segment ∈ l, segment ∈ more) :
    piece.Among mark? more := by
  cases piece with
  | kept source =>
    obtain ⟨segment, hmem, hkept⟩ := h
    exact ⟨segment, hl _ hmem, hkept⟩
  | element mark e =>
    obtain ⟨htag, hmark, hclosing⟩ := h
    exact ⟨hl _ htag, hmark, hclosing.imp_right fun ⟨n, hn⟩ => ⟨n, hl _ hn⟩⟩
  | unclosed mark t => trivial

theorem among_of_mem_piecesFrom {α : Type} {mark? : OpenTag → Option α} {done : List (Piece α)}
    {piece : Piece α} (h : piece ∈ piecesFrom mark? done l) :
    piece ∈ done ∨ piece.Among mark? l := by
  have hstep : ∀ {new : Piece α} {done : List (Piece α)} {rest l : List Segment},
      piece ∈ new :: done ∨ piece.Among mark? rest → (∀ segment ∈ rest, segment ∈ l) →
      new.Among mark? l → piece ∈ done ∨ piece.Among mark? l := by
    intro new done rest l h hrest hnew
    rcases h with h | h
    · rcases List.mem_cons.mp h with rfl | h
      · exact Or.inr hnew
      · exact Or.inl h
    · exact Or.inr (h.mono hrest)
  have hcons : ∀ {segment : Segment} {rest : List Segment},
      ∀ other ∈ rest, other ∈ segment :: rest := fun _ hmem => List.mem_cons_of_mem _ hmem
  fun_induction piecesFrom mark? done l with
  | case1 done => exact Or.inl (List.mem_reverse.mp h)
  | case2 done t rest hm ih =>
    exact hstep (ih h) hcons ⟨_, List.mem_cons_self .., unmarked_openTag hm, rfl⟩
  | case3 done t rest mark hm hempty ih =>
    exact hstep (ih h) hcons ⟨List.mem_cons_self .., hm, Or.inl rfl⟩
  | case4 done t rest mark hm hfull p hp ih =>
    obtain ⟨⟨n, hn⟩, hrest⟩ := mem_of_pairFrom hp
    exact hstep (ih h) (fun _ hmem => List.mem_cons_of_mem _ (hrest _ hmem))
      ⟨List.mem_cons_self .., hm, Or.inr ⟨n, List.mem_cons_of_mem _ hn⟩⟩
  | case5 done t rest mark hm hfull hp ih => exact hstep (ih h) hcons trivial
  | case6 done segment rest hne ih =>
    exact hstep (ih h) hcons ⟨_, List.mem_cons_self .., fun t ht => absurd ht (hne t), rfl⟩

theorem among_of_mem_pieces {α : Type} {mark? : OpenTag → Option α} {piece : Piece α}
    (h : piece ∈ pieces mark? s) : piece.Among mark? (segments s) :=
  (among_of_mem_piecesFrom h).resolve_left (List.not_mem_nil)

/-! ### Replacing in complete markup -/

namespace Replacement

variable {α ε : Type} {r : Replacement α ε} {out : List Char}

/-- What holds of all texts that are kept or put in holds of the result if it is passed on to texts
in a row. -/
theorem assemble_closed {R : List Char → Prop} (hnil : R [])
    (happend : ∀ a b, R a → R b → R (a ++ b)) {pieces : List (Piece α)}
    {done : List (List Char)} (hdone : ∀ text ∈ done, R text)
    (hkept : ∀ source, .kept source ∈ pieces → R source)
    (helement : ∀ mark e text, .element mark e ∈ pieces → r.replace mark e = .ok text → R text)
    (h : r.assemble done pieces = .ok out) : R out := by
  have hflatten : ∀ texts : List (List Char), (∀ text ∈ texts, R text) → R texts.flatten := by
    intro texts htexts
    induction texts with
    | nil => exact hnil
    | cons text texts ih =>
      exact happend _ _ (htexts text (List.mem_cons_self ..))
        (ih fun other hother => htexts other (List.mem_cons_of_mem _ hother))
  have hdoneText : R done.reverse.flatten :=
    hflatten _ fun text htext => hdone text (List.mem_reverse.mp htext)
  induction pieces generalizing done with
  | nil =>
    obtain rfl := Except.ok.inj h
    exact hdoneText
  | cons piece pieces ih =>
    have hkept' : ∀ source, .kept source ∈ pieces → R source :=
      fun source hmem => hkept source (List.mem_cons_of_mem _ hmem)
    have helement' : ∀ mark e text, .element mark e ∈ pieces → r.replace mark e = .ok text →
        R text := fun mark e text hmem => helement mark e text (List.mem_cons_of_mem _ hmem)
    have hadd : ∀ text, R text → r.assemble (text :: done) pieces = .ok out → R out := by
      intro text htext hassemble
      have hmore : ∀ other ∈ text :: done, R other := by
        intro other hother
        rcases List.mem_cons.mp hother with rfl | hother
        · exact htext
        · exact hdone other hother
      exact ih hmore hkept' helement' hassemble
        (hflatten _ fun other hother => hmore other (List.mem_reverse.mp hother))
    cases piece with
    | kept source => exact hadd source (hkept source (List.mem_cons_self ..)) h
    | element mark e =>
      rw [assemble] at h
      cases htext : r.replace mark e with
      | error f => simp [htext, bind, Except.bind] at h
      | ok text =>
        rw [htext] at h
        exact hadd text (helement mark e text (List.mem_cons_self ..) htext) h
    | unclosed mark t =>
      rw [assemble] at h
      cases hpolicy : r.unclosed mark with
      | error f => simp [hpolicy, bind, Except.bind] at h
      | ok policy =>
        rw [hpolicy] at h
        cases policy with
        | dropTag => exact ih hdone hkept' helement' h hdoneText
        | dropRest =>
          obtain rfl := Except.ok.inj h
          exact hdoneText

/-- Complete markup stays complete if what is put in is, and the tags are those that are kept and
those that are put in. -/
theorem marked_apply (hs : Marked P s) (hkept : ∀ t, P t → r.mark? t = none → Q t)
    (helement : ∀ mark e text, .element mark e ∈ pieces r.mark? s → r.replace mark e = .ok text →
      Marked Q text)
    (h : r.apply s = .ok out) : Marked Q out := by
  have hnone : ∀ text ∈ ([] : List (List Char)), Marked Q text :=
    fun _ htext => absurd htext List.not_mem_nil
  refine assemble_closed .nil (fun _ _ => .append) hnone ?_ helement h
  intro source hmem
  obtain ⟨segment, hsegment, hunmarked, rfl⟩ := among_of_mem_pieces hmem
  obtain ⟨hframed, htag⟩ := hs segment hsegment
  exact .source hframed fun t ht => hkept t (htag t ht) (hunmarked t ht)

end Replacement

/-- The tag and the closing tag of an element in complete markup. -/
theorem Marked.element {α : Type} {mark? : OpenTag → Option α} {mark : α} {e : Element}
    (hs : Marked P s) (hmem : .element mark e ∈ pieces mark? s) :
    e.tag.Scanned ∧ P e.tag ∧ mark? e.tag = some mark ∧ Marked Q e.closing := by
  obtain ⟨htag, hmark, hclosing⟩ := among_of_mem_pieces hmem
  obtain ⟨hscanned, hP⟩ := hs.scanned htag
  refine ⟨hscanned, hP, hmark, ?_⟩
  rcases hclosing with hnil | ⟨n, hclose⟩
  · rw [hnil]
    exact .nil
  · have hframed : (Segment.closeTag n e.closing).Framed := (hs _ hclose).1
    exact .source hframed fun t ht => by simp at ht

theorem marked_concatM {α ε : Type} {f : α → Except ε (List Char)} {items : List α}
    {out : List Char} (hf : ∀ item ∈ items, ∀ text, f item = .ok text → Marked Q text)
    (h : concatM f items = .ok out) : Marked Q out := by
  induction items generalizing out with
  | nil =>
    obtain rfl := Except.ok.inj h
    exact .nil
  | cons item items ih =>
    obtain ⟨text, rest, htext, hrest, rfl⟩ := concatM_cons_eq_ok.mp h
    exact (hf item (List.mem_cons_self ..) text htext).append
      (ih (fun other hother => hf other (List.mem_cons_of_mem _ hother)) hrest)

/-- Editing the tags of complete markup. -/
theorem marked_replaceTags {ε : Type} {edit : OpenTag → Except ε (List Char)} {out : List Char}
    (hs : Marked P s)
    (hedit : ∀ t text, t.Scanned → P t → edit t = .ok text → Marked Q text)
    (h : replaceTags edit s = .ok out) : Marked Q out := by
  rw [replaceTags_eq_concatM] at h
  refine marked_concatM (fun segment hmem text htext => ?_) h
  cases segment with
  | openTag t =>
    obtain ⟨hscanned, hP⟩ := hs.scanned hmem
    exact hedit t text hscanned hP htext
  | text source | comment source | closeTag name source =>
    obtain rfl := Except.ok.inj htext
    exact .source (hs _ hmem).1 fun t ht => by simp at ht

end Stencil.Markup
