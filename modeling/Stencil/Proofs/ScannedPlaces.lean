import Mathlib.Data.List.Pairwise
import Stencil.Proofs.LocatedTags
import Stencil.Proofs.TagTexts

/-!
What a scan says about places. The tags and comments of a text stand in it one behind the other, and
each is written there as it was read: an opening tag with its attributes in order behind its name, a
closing tag with its name behind the slash, a comment up to its first end. A comment without an end
is the last thing that is found. Nothing is missed: wherever a tag or a comment starts, it is found
or stands inside one that is.
-/
namespace Stencil.Markup

open Text

/-! ### Pieces in a row -/

section Row

variable {α : Type} {text : α → List Char} {start : Nat} {l : List α} {p : α × Extent}

/-- The piece stands in the text where the extent says. -/
def Extent.Holds (e : Extent) (piece s : List Char) : Prop :=
  StandsAt piece e.start s ∧ e.stop = e.start + byteSize piece

/-- Whether two extents take no byte in common. -/
def Extent.Apart (e other : Extent) : Prop := e.stop ≤ other.start ∨ other.stop ≤ e.start

/-- Pieces in a row with their extents, where the first stands at `start`. -/
def placedFrom (text : α → List Char) (start : Nat) : List α → List (α × Extent)
  | [] => []
  | a :: l =>
    (a, ⟨start, start + byteSize (text a)⟩) :: placedFrom text (start + byteSize (text a)) l

theorem placedFrom_append (start : Nat) (a b : List α) :
    placedFrom text start (a ++ b) =
      placedFrom text start a ++ placedFrom text (start + byteSize (a.flatMap text)) b := by
  induction a generalizing start with
  | nil => rfl
  | cons x a ih =>
    rw [List.cons_append, placedFrom, ih, placedFrom, List.flatMap_cons, byteSize_append,
      List.cons_append, Nat.add_assoc]

/-- A piece in a row stands behind the pieces before it. -/
theorem exists_split_of_mem_placedFrom (h : p ∈ placedFrom text start l) :
    ∃ before after, l = before ++ p.1 :: after ∧
      p.2.start = start + byteSize (before.flatMap text) ∧
      p.2.stop = p.2.start + byteSize (text p.1) := by
  induction l generalizing start with
  | nil => cases h
  | cons a l ih =>
    rcases List.mem_cons.mp h with rfl | hbehind
    · exact ⟨[], l, rfl, rfl, rfl⟩
    · obtain ⟨before, after, rfl, hstart, hstop⟩ := ih hbehind
      refine ⟨a :: before, after, rfl, ?_, hstop⟩
      rw [List.flatMap_cons, byteSize_append]
      omega

/-- A piece in a row stands in every text in which the row stands, whatever is in front of the row
and behind it. -/
theorem holds_of_mem_placedFrom {a b s : List Char} {n : Nat}
    (h : p ∈ placedFrom text (n + byteSize a) l)
    (hs : StandsAt (a ++ (l.flatMap text ++ b)) n s) : p.2.Holds (text p.1) s := by
  obtain ⟨before, after, rfl, hstart, hstop⟩ := exists_split_of_mem_placedFrom h
  have hinrow : StandsAt (text p.1) (byteSize a + byteSize (before.flatMap text))
      (a ++ ((before ++ p.1 :: after).flatMap text ++ b)) := by
    refine ⟨a ++ before.flatMap text, after.flatMap text ++ b, ?_, byteSize_append ..⟩
    rw [List.flatMap_append, List.flatMap_cons]
    simp only [List.append_assoc]
  refine ⟨?_, hstop⟩
  rw [hstart, Nat.add_assoc]
  exact hinrow.trans hs

theorem within_of_mem_placedFrom (h : p ∈ placedFrom text start l) :
    p.2.Within ⟨start, start + byteSize (l.flatMap text)⟩ := by
  obtain ⟨before, after, rfl, hstart, hstop⟩ := exists_split_of_mem_placedFrom h
  simp only [Extent.Within, List.flatMap_append, List.flatMap_cons, byteSize_append]
  omega

/-- Each piece ends where a later one starts, or in front of it. -/
theorem pairwise_placedFrom (text : α → List Char) (start : Nat) (l : List α) :
    (placedFrom text start l).Pairwise fun p q => p.2.stop ≤ q.2.start := by
  induction l generalizing start with
  | nil => exact .nil
  | cons a l ih =>
    refine List.pairwise_cons.mpr ⟨?_, ih _⟩
    intro q hq
    obtain ⟨before, after, -, hstart, -⟩ := exists_split_of_mem_placedFrom hq
    simp only
    omega

end Row

/-! ### Attributes in their tag -/

section Attributes

variable {start : Nat} {parts : List Part} {a : Attr × Extent}

/-- The attribute that a part with its extent is, if any. -/
def Part.located? (p : Part × Extent) : Option (Attr × Extent) := p.1.attr?.map fun a => (a, p.2)

theorem locatedAttrs_eq (start : Nat) (parts : List Part) :
    locatedAttrs start parts = (placedFrom Part.source start parts).filterMap Part.located? := by
  induction parts generalizing start with
  | nil => rfl
  | cons p parts ih =>
    rw [placedFrom, List.filterMap_cons, ← ih]
    cases p <;> rfl

theorem exists_mem_placedFrom_of_mem_locatedAttrs (h : a ∈ locatedAttrs start parts) :
    (.attr a.1, a.2) ∈ placedFrom Part.source start parts := by
  rw [locatedAttrs_eq] at h
  obtain ⟨⟨p, e⟩, hmem, hp⟩ := List.mem_filterMap.mp h
  cases p with
  | stray source => cases hp
  | attr b =>
    obtain rfl := Option.some.inj hp
    exact hmem

theorem map_fst_locatedAttrs (start : Nat) (parts : List Part) :
    (locatedAttrs start parts).map Prod.fst = parts.filterMap Part.attr? := by
  induction parts generalizing start with
  | nil => rfl
  | cons p parts ih =>
    cases p with
    | attr b =>
      rw [locatedAttrs, List.map_cons, ih]
      rfl
    | stray source =>
      rw [locatedAttrs, ih]
      rfl

theorem pairwise_locatedAttrs (start : Nat) (parts : List Part) :
    (locatedAttrs start parts).Pairwise fun a b => a.2.stop ≤ b.2.start := by
  rw [locatedAttrs_eq, List.pairwise_filterMap]
  refine (pairwise_placedFrom Part.source start parts).imp ?_
  intro p q hle a ha b hb
  obtain ⟨-, -, rfl⟩ := Option.map_eq_some_iff.mp ha
  obtain ⟨-, -, rfl⟩ := Option.map_eq_some_iff.mp hb
  exact hle

end Attributes

/-! ### Tags as they are written -/

section Written

variable {s rest name source : List Char} {before behind : List Segment} {segment : Segment}
  {t : OpenTag}

/-- A tag as it is written: what opens it, all the name characters behind that, and at last the
character that ends it. -/
structure WrittenTag (opening name source : List Char) : Prop where
  name_ne_nil : name ≠ []
  name_eq : ∃ more, source = opening ++ more ∧ name = more.takeWhile isNameChar
  ends : source.getLast? = some '>'

/-- An attribute as it is written: blanks, the name, and behind it the value if there is one. -/
structure WrittenAttr (a : Attr) : Prop where
  name_ne_nil : a.name ≠ []
  source_eq : ∃ blanks more, (∀ c ∈ blanks, isMarkupBlank c = true) ∧
    a.source = blanks ++ (a.name ++ more) ∧ ∀ value, a.value = some value → value <:+: more

/-- A comment that goes up to the first end behind its start. -/
def ClosesOnce (source : List Char) : Prop :=
  ∃ content, source = commentStart ++ (content ++ commentEnd) ∧
    ∀ a b, content ++ commentEnd = a ++ (commentEnd ++ b) → b = []

/-- A comment without an end. -/
def StaysOpen (source : List Char) : Prop :=
  ∃ content, source = commentStart ++ content ∧ ¬commentEnd <:+: content

theorem Attr.Spelled.written {a : Attr} (h : a.Spelled) : WrittenAttr a := by
  cases h with
  | @bare blanks name hname =>
    refine ⟨hname.name_ne_nil, blanks, [], hname.blanks, by rw [List.append_nil], ?_⟩
    intro value hvalue
    cases hvalue
  | @valued blanks name value source hname hvalue =>
    refine ⟨hname.name_ne_nil, blanks, source, hname.blanks, List.append_assoc .., ?_⟩
    intro other hother
    obtain rfl := Option.some.inj hother
    cases hvalue with
    | quoted before after value quote =>
      exact ⟨before ++ '=' :: (after ++ [quote]), [quote], by simp⟩
    | unquoted before after value =>
      exact ⟨before ++ '=' :: after, [], by simp⟩

theorem getLast?_of_readStep_tail {selfClosing : Bool}
    (h : readStep s = .tail source selfClosing rest) : source.getLast? = some '>' := by
  obtain ⟨blanks, -, rfl | rfl⟩ := readStep_tail_cases h
  · exact List.getLast?_concat
  · rw [List.getLast?_append]
    rfl

theorem OpenTag.Scanned.written (h : t.Scanned) : WrittenTag ['<'] t.name t.source := by
  obtain ⟨⟨c, n, hname, -⟩, -, hreads⟩ := h.reads
  refine ⟨by simp [hname], ?_, ?_⟩
  · obtain ⟨w, hsource, hread⟩ := h.reading
    have hown := hread []
    rw [List.append_nil] at hown
    obtain ⟨-, -, -, -, hopen⟩ := readMarkup_eq_openTag hown
    obtain ⟨parts, hsame, -⟩ := reads_of_readPartsFrom hopen
    exact ⟨w, hsource, hsame⟩
  · have hends := getLast?_of_readStep_tail hreads.readStep_ending
    rw [OpenTag.source, List.getLast?_append, hends]
    rfl

theorem written_of_readCloseTag (h : readCloseTag s = some (.closeTag name source, rest)) :
    WrittenTag ['<', '/'] name source := by
  unfold readCloseTag at h
  split at h
  · cases h
  · next hname =>
    split at h
    · next content rest' hcut =>
      simp only [Option.some.injEq, Prod.mk.injEq, Segment.closeTag.injEq] at h
      obtain ⟨⟨rfl, rfl⟩, rfl⟩ := h
      refine ⟨fun hnil => hname (by rw [hnil]; rfl), ⟨content ++ ['>'], rfl, ?_⟩, ?_⟩
      · -- the name stops at the end of the tag if not before
        have hmem : '>' ∈ content ++ ['>'] := by simp
        rw [cut_eq_some hcut, takeWhile_append_of_mem _ isNameChar_gt hmem]
      · exact List.getLast?_concat
    · cases h

/-- A comment without an end is read to the end of the text. -/
theorem written_of_readComment (h : readComment s = (.comment source, rest)) :
    ClosesOnce source ∨ StaysOpen source ∧ rest = [] := by
  unfold readComment at h
  split at h
  · next content behind hcut =>
    simp only [Prod.mk.injEq, Segment.comment.injEq] at h
    obtain ⟨rfl, rfl⟩ := h
    refine .inl ⟨content, List.append_assoc .., ?_⟩
    intro a b hab
    have hs : s = a ++ commentEnd ++ (b ++ behind) := by
      rw [cut_eq_some hcut, hab]
      simp only [List.append_assoc]
    have hfirst := length_le_of_cut hcut hs
    have hlengths := congrArg List.length hab
    simp only [List.length_append] at hlengths
    exact List.length_eq_zero_iff.mp (by omega)
  · next hcut =>
    simp only [Prod.mk.injEq, Segment.comment.injEq] at h
    obtain ⟨rfl, rfl⟩ := h
    exact .inr ⟨⟨s, rfl, cut_eq_none_iff.mp hcut⟩, rfl⟩

/-- What is read as markup is a comment, a closing tag or an opening tag. -/
theorem readMarkup_cases (h : readMarkup s = some (segment, rest)) :
    (∃ u source, segment = .comment source ∧ readComment u = (.comment source, rest)) ∨
      (∃ u name source, segment = .closeTag name source ∧
        readCloseTag u = some (.closeTag name source, rest)) ∨
      ∃ t, segment = .openTag t := by
  unfold readMarkup at h
  split at h
  · next u =>
    have hread := Option.some.inj h
    obtain ⟨source, rfl⟩ : ∃ source, segment = .comment source := by
      unfold readComment at hread
      split at hread <;> exact ⟨_, (Prod.mk.inj hread).1.symm⟩
    exact .inl ⟨u, source, rfl, hread⟩
  · next u =>
    obtain ⟨name, source, rfl⟩ : ∃ name source, segment = .closeTag name source := by
      unfold readCloseTag at h
      split at h
      · cases h
      · split at h
        · exact ⟨_, _, (Prod.mk.inj (Option.some.inj h)).1.symm⟩
        · cases h
    exact .inr (.inl ⟨u, name, source, rfl, h⟩)
  · split at h
    · obtain ⟨r, -, hr⟩ := Option.map_eq_some_iff.mp h
      exact .inr (.inr ⟨r.1, (Prod.mk.inj hr).1.symm⟩)
    · cases h
  · cases h

theorem ne_text_of_readMarkup (h : readMarkup s = some (segment, rest)) (source : List Char) :
    segment ≠ .text source := by
  rintro rfl
  rcases readMarkup_cases h with ⟨u, other, hsame, -⟩ | ⟨u, name, other, hsame, -⟩ | ⟨t, hsame⟩ <;>
    cases hsame

/-- Plain text in front of a text begins its first segment. -/
theorem exists_text_of_segmentsFrom {plain : List Char} (h : plain ≠ []) (s : List Char) :
    ∃ source l, segmentsFrom [] plain s = .text source :: l := by
  have hadd {plain : List Char} (h : plain ≠ []) : addText plain [] = [.text plain.reverse] := by
    rw [addText, if_neg (by simpa using h)]
  induction plain, s using segmentsFrom_induction with
  | nil plain =>
    rw [segmentsFrom_nil, hadd h]
    exact ⟨plain.reverse, [], rfl⟩
  | char plain c s hc ih =>
    rw [segmentsFrom_char plain hc]
    exact ih (List.cons_ne_nil c plain)
  | markup plain s segment rest hm ih =>
    rw [segmentsFrom_markup plain hm, hadd h]
    exact ⟨plain.reverse, segment :: segments rest, rfl⟩

/-- A comment or tag of a text is read in front of what stands behind it. -/
theorem exists_readMarkup_of_segments (h : segments s = before ++ segment :: behind)
    (hsegment : ∀ source, segment ≠ .text source) :
    ∃ u, readMarkup u = some (segment, sources behind) := by
  have hbehind : segments (segment.source ++ sources behind) = segment :: behind :=
    (segments_of_append h).2
  generalize hs : segment.source ++ sources behind = w at hbehind
  cases w with
  | nil =>
    rw [segments_nil] at hbehind
    cases hbehind
  | cons c u =>
    by_cases hc : c = '<' → readMarkup u = none
    · -- the text would start with plain text
      rw [segments, segmentsFrom_char [] hc] at hbehind
      obtain ⟨source, l, htext⟩ := exists_text_of_segmentsFrom (List.cons_ne_nil c []) u
      rw [htext] at hbehind
      exact absurd (List.cons.inj hbehind).1.symm (hsegment source)
    · obtain ⟨rfl, hm⟩ := Classical.not_imp.mp hc
      obtain ⟨⟨other, r⟩, hm⟩ := Option.ne_none_iff_exists'.mp hm
      rw [segments_markup hm] at hbehind
      obtain ⟨rfl, rfl⟩ := List.cons.inj hbehind
      exact ⟨u, by rw [hm, sources_segments]⟩

end Written

/-! ### Segments and their places -/

section Places

variable {s : List Char} {tag : LocatedTag} {p : Segment × Extent} {c : List Char × Extent}

/-- The segments of a text and where they stand. -/
def places (s : List Char) : List (Segment × Extent) := placedFrom Segment.source 0 (segments s)

/-- The tag that a segment with its extent is, if any. -/
def tagAt? (p : Segment × Extent) : Option LocatedTag := p.1.located? p.2.start

/-- The comment that a segment with its extent is, if any. -/
def commentAt? : Segment × Extent → Option (List Char × Extent)
  | (.comment source, e) => some (source, e)
  | (.text _, _) | (.openTag _, _) | (.closeTag _ _, _) => none

/-- The comments of a text in order and where they stand. -/
def locatedComments (s : List Char) : List (List Char × Extent) := (places s).filterMap commentAt?

theorem locatedFrom_eq (start : Nat) (l : List Segment) :
    locatedFrom start l = (placedFrom Segment.source start l).filterMap tagAt? := by
  induction l generalizing start with
  | nil => rfl
  | cons segment l ih =>
    rw [locatedFrom, placedFrom, List.filterMap_cons, ih, tagAt?]
    cases segment.located? start <;> rfl

theorem locatedTags_eq (s : List Char) : locatedTags s = (places s).filterMap tagAt? :=
  locatedFrom_eq 0 (segments s)

theorem holds_of_mem_places (h : p ∈ places s) : p.2.Holds p.1.source s := by
  have hmem : p ∈ placedFrom Segment.source (0 + byteSize []) (segments s) := h
  have hsources : (segments s).flatMap Segment.source = s := sources_segments s
  have hrow : StandsAt ([] ++ ((segments s).flatMap Segment.source ++ [])) 0 s := by
    rw [List.nil_append, List.append_nil, hsources]
    exact ⟨[], [], (List.append_nil s).symm, rfl⟩
  exact holds_of_mem_placedFrom hmem hrow

theorem exists_split_of_mem_places (h : p ∈ places s) :
    ∃ before behind, segments s = before ++ p.1 :: behind ∧
      p.2.start = byteSize (sources before) := by
  obtain ⟨before, behind, hsplit, hstart, -⟩ := exists_split_of_mem_placedFrom h
  exact ⟨before, behind, hsplit, hstart.trans (Nat.zero_add _)⟩

/-- A segment takes some bytes of the text. -/
theorem bounds_of_mem_places (h : p ∈ places s) :
    p.2.start < p.2.stop ∧ p.2.stop ≤ byteSize s := by
  obtain ⟨before, behind, hsplit, -⟩ := exists_split_of_mem_places h
  have hmem : p.1 ∈ segments s := by simp [hsplit]
  have hpos := byteSize_pos (source_ne_nil_of_mem_segments hmem)
  obtain ⟨hstands, hstop⟩ := holds_of_mem_places h
  have hle := hstands.le
  omega

theorem extent_of_tagAt? (hp : p ∈ places s) (h : tagAt? p = some tag) : tag.extent = p.2 := by
  rw [Segment.extent_of_located? h, ← (holds_of_mem_places hp).2]

theorem exists_mem_places_of_mem_locatedTags (h : tag ∈ locatedTags s) :
    ∃ p ∈ places s, tagAt? p = some tag := by
  rw [locatedTags_eq] at h
  exact List.mem_filterMap.mp h

theorem eq_of_commentAt? (h : commentAt? p = some c) : p = (.comment c.1, c.2) := by
  obtain ⟨segment, e⟩ := p
  cases segment with
  | comment source =>
    obtain rfl := Option.some.inj h
    rfl
  | text source | openTag t | closeTag name source => cases h

theorem mem_places_of_mem_locatedComments (h : c ∈ locatedComments s) :
    (.comment c.1, c.2) ∈ places s := by
  obtain ⟨p, hmem, hp⟩ := List.mem_filterMap.mp h
  exact eq_of_commentAt? hp ▸ hmem

/-- A segment that is no plain text is a tag or a comment. -/
theorem exists_tagAt?_or_commentAt? (h : ∀ source, p.1 ≠ .text source) :
    (∃ tag, tagAt? p = some tag) ∨ ∃ c, commentAt? p = some c := by
  obtain ⟨segment, e⟩ := p
  cases segment with
  | text source => exact absurd rfl (h source)
  | comment source => exact .inr ⟨_, rfl⟩
  | openTag t | closeTag name source => exact .inl ⟨_, rfl⟩

/-- A comment or tag stands where one starts. -/
theorem exists_startsMarkup_of_mem_places (h : p ∈ places s)
    (hp : ∀ source, p.1 ≠ .text source) :
    ∃ a b, s = a ++ '<' :: b ∧ byteSize a = p.2.start ∧ StartsMarkup b := by
  obtain ⟨before, behind, hsplit, hstart⟩ := exists_split_of_mem_places h
  obtain ⟨u, hread⟩ := exists_readMarkup_of_segments hsplit hp
  refine ⟨sources before, u, ?_, hstart.symm, readMarkup_ne_none_iff.mp ?_⟩
  · rw [← readMarkup_eq_some hread, ← sources_cons, ← sources_append, ← hsplit, sources_segments]
  · rw [hread]
    exact Option.some_ne_none _

/-- Two segments at different places take no byte in common. -/
theorem apart_of_mem_places {q : Segment × Extent} (hp : p ∈ places s) (hq : q ∈ places s)
    (hne : p ≠ q) : p.2.Apart q.2 := by
  have hsymm : Std.Symm fun p q : Segment × Extent => p.2.Apart q.2 := ⟨fun _ _ => Or.symm⟩
  have hpairwise : (places s).Pairwise fun p q => p.2.Apart q.2 :=
    (pairwise_placedFrom Segment.source 0 (segments s)).imp Or.inl
  exact hpairwise.forall hp hq hne

/-- Wherever a comment or tag could be read, it is read or stands inside one that is. -/
theorem exists_place_of_readMarkup (plain : List Char) (start : Nat) {s a b : List Char}
    (hs : s = a ++ '<' :: b) (hb : readMarkup b ≠ none) :
    ∃ p ∈ placedFrom Segment.source start (segmentsFrom [] plain s),
      (∀ source, p.1 ≠ .text source) ∧
        p.2.start ≤ start + byteSize plain.reverse + byteSize a ∧
        start + byteSize plain.reverse + byteSize a < p.2.stop := by
  induction plain, s using segmentsFrom_induction generalizing start a with
  | nil plain => simp at hs
  | char plain c s hc ih =>
    rw [segmentsFrom_char plain hc]
    cases a with
    | nil =>
      obtain ⟨rfl, rfl⟩ := List.cons.inj hs
      exact absurd (hc rfl) hb
    | cons d a =>
      obtain ⟨rfl, rfl⟩ := List.cons.inj hs
      obtain ⟨p, hmem, hp, hle, hlt⟩ := ih start rfl
      refine ⟨p, hmem, hp, ?_⟩
      simp only [List.reverse_cons, byteSize_append, byteSize_cons, byteSize_nil] at hle hlt ⊢
      omega
  | markup plain s segment rest hm ih =>
    have hplain : (addText plain []).reverse.flatMap Segment.source = plain.reverse :=
      sources_addText plain []
    have hsource : segment.source ++ rest = a ++ '<' :: b := (readMarkup_eq_some hm).trans hs
    rw [segmentsFrom_markup plain hm, placedFrom_append, hplain, placedFrom]
    rcases exists_behind_or_byteSize_lt hsource with ⟨a', rfl, hrest⟩ | hinside
    · obtain ⟨p, hmem, hp, hle, hlt⟩ :=
        ih (start + byteSize plain.reverse + byteSize segment.source) hrest
      refine ⟨p, List.mem_append_right _ (List.mem_cons_of_mem _ hmem), hp, ?_⟩
      simp only [List.reverse_nil, byteSize_nil, byteSize_append] at hle hlt ⊢
      omega
    · refine ⟨_, List.mem_append_right _ List.mem_cons_self, ?_, ?_, ?_⟩
      · exact ne_text_of_readMarkup hm
      · exact Nat.le_add_right _ _
      · simp only
        omega

end Places

/-! ### The scan of a text -/

/-- What a scan says about an attribute of a tag: it stands where its extent says, as it is written,
and within the bytes that the tag has for attributes. -/
structure PlacedAttr (s : List Char) (e : Extent) (a : Attr × Extent) : Prop where
  holds : a.2.Holds a.1.source s
  written : WrittenAttr a.1
  inside : a.2.Within e

/-- The bytes of a tag behind its name. -/
def behindName (t : OpenTag) (e : Extent) : Extent := ⟨e.start + byteSize ('<' :: t.name), e.stop⟩

/-- What a scan says about an opening tag: it stands where its extent says, as it is written, with
its attributes in order behind its name. -/
structure PlacedOpenTag (s : List Char) (t : OpenTag) (attrs : List (Attr × Extent)) (e : Extent) :
    Prop where
  holds : e.Holds t.source s
  written : WrittenTag ['<'] t.name t.source
  attrs_eq : attrs.map Prod.fst = t.attrs
  attrs_placed : ∀ a ∈ attrs, PlacedAttr s (behindName t e) a
  attrs_ascend : attrs.Pairwise fun a b => a.2.stop ≤ b.2.start
  rebuilt : ∀ ε : Type, (t.rebuild fun _ => .ok .keep : Except ε (List Char)) = .ok t.source

/-- What a scan says about a tag. -/
def PlacedTag (s : List Char) : LocatedTag → Prop
  | .opening t attrs e => PlacedOpenTag s t attrs e
  | .closing name e => ∃ source, e.Holds source s ∧ WrittenTag ['<', '/'] name source

/-- What a scan says about a comment: it stands where its extent says and goes to its first end, or
else to the end of the text, and then no tag follows it. -/
structure PlacedComment (s : List Char) (tags : List LocatedTag) (c : List Char × Extent) :
    Prop where
  holds : c.2.Holds c.1 s
  apart : ∀ tag ∈ tags, tag.extent.Apart c.2
  ends : ClosesOnce c.1 ∨
    StaysOpen c.1 ∧ c.2.stop = byteSize s ∧ ∀ tag ∈ tags, tag.extent.stop ≤ c.2.start

/-- Whether a byte is taken by one of the tags or comments. -/
def Taken (tags : List LocatedTag) (comments : List (List Char × Extent)) (n : Nat) : Prop :=
  (∃ tag ∈ tags, tag.extent.start ≤ n ∧ n < tag.extent.stop) ∨
    ∃ c ∈ comments, c.2.start ≤ n ∧ n < c.2.stop

/-- What a scan says about all tags and comments of a text. They start where a tag or a comment
starts, and wherever one starts it is one of them or stands inside one. -/
structure WellScanned (s : List Char) (tags : List LocatedTag)
    (comments : List (List Char × Extent)) : Prop where
  tags_placed : ∀ tag ∈ tags, PlacedTag s tag
  tags_nonempty : ∀ tag ∈ tags, tag.extent.start < tag.extent.stop
  tags_ascend : tags.Pairwise fun tag other => tag.extent.stop ≤ other.extent.start
  comments_placed : ∀ c ∈ comments, PlacedComment s tags c
  comments_ascend : comments.Pairwise fun c other => c.2.stop ≤ other.2.start
  found_start : ∀ n, (∃ tag ∈ tags, tag.extent.start = n) ∨ (∃ c ∈ comments, c.2.start = n) →
    ∃ a b, s = a ++ '<' :: b ∧ byteSize a = n ∧ StartsMarkup b
  markup_found : ∀ a b, s = a ++ '<' :: b → StartsMarkup b → Taken tags comments (byteSize a)
  comments_found : ∀ n, StandsAt commentStart n s → Taken tags comments n

section Scan

variable {s : List Char} {tag : LocatedTag} {c : List Char × Extent}

theorem placedAttr_of_scanned {t : OpenTag} {e : Extent} {a : Attr × Extent} (h : t.Scanned)
    (hholds : e.Holds t.source s) (ha : a ∈ locatedAttrs (behindName t e).start t.parts) :
    PlacedAttr s (behindName t e) a := by
  have hmem := exists_mem_placedFrom_of_mem_locatedAttrs ha
  have hsource : t.source = '<' :: t.name ++ (t.parts.flatMap Part.source ++ t.tail) := by
    rw [OpenTag.source, List.append_assoc]
  obtain ⟨hstands, hstop⟩ := hholds
  rw [hsource] at hstands hstop
  have hpart : .attr a.1 ∈ t.parts := by
    obtain ⟨before, after, hparts, -⟩ := exists_split_of_mem_placedFrom hmem
    simp [hparts]
  obtain ⟨-, -, hreads⟩ := h.reads
  have hplaced : a.2.Holds (Part.attr a.1).source s := holds_of_mem_placedFrom hmem hstands
  refine ⟨hplaced, (hreads.spelled hpart).written, ?_⟩
  obtain ⟨hfrom, hupto⟩ := within_of_mem_placedFrom hmem
  simp only [byteSize_append, behindName] at hstop hfrom hupto
  exact ⟨hfrom, by simp only [behindName]; omega⟩

theorem placedTag_of_mem_locatedTags (h : tag ∈ locatedTags s) : PlacedTag s tag := by
  obtain ⟨⟨segment, start, stop⟩, hmem, htag⟩ := exists_mem_places_of_mem_locatedTags h
  have hholds : Extent.Holds ⟨start, stop⟩ segment.source s := holds_of_mem_places hmem
  obtain rfl : stop = start + byteSize segment.source := hholds.2
  obtain ⟨before, behind, hsplit, -⟩ := exists_split_of_mem_places hmem
  cases segment with
  | text source | comment source => cases htag
  | openTag t =>
    obtain rfl := Option.some.inj htag
    have hscanned : t.Scanned := OpenTag.scanned_of_mem_segments (s := s) (by simp [hsplit])
    exact ⟨hholds, hscanned.written, map_fst_locatedAttrs _ _,
      fun a ha => placedAttr_of_scanned hscanned hholds ha, pairwise_locatedAttrs _ _,
      fun ε => t.rebuild_keep⟩
  | closeTag name source =>
    obtain rfl := Option.some.inj htag
    obtain ⟨u, hread⟩ := exists_readMarkup_of_segments hsplit (by simp)
    refine ⟨source, hholds, ?_⟩
    rcases readMarkup_cases hread with ⟨v, other, hsame, -⟩ | ⟨v, name, source, hsame, hclose⟩ |
      ⟨t, hsame⟩
    · cases hsame
    · obtain ⟨rfl, rfl⟩ := Segment.closeTag.inj hsame
      exact written_of_readCloseTag hclose
    · cases hsame

theorem placedComment_of_mem_locatedComments (h : c ∈ locatedComments s) :
    PlacedComment s (locatedTags s) c := by
  have hmem := mem_places_of_mem_locatedComments h
  have hholds : c.2.Holds c.1 s := holds_of_mem_places hmem
  have hapart : ∀ tag ∈ locatedTags s, tag.extent.Apart c.2 := by
    intro tag htag
    obtain ⟨p, hp, htagAt⟩ := exists_mem_places_of_mem_locatedTags htag
    rw [extent_of_tagAt? hp htagAt]
    refine apart_of_mem_places hp hmem ?_
    rintro rfl
    cases htagAt
  refine ⟨hholds, hapart, ?_⟩
  obtain ⟨before, behind, hsplit, hstart⟩ := exists_split_of_mem_places hmem
  obtain ⟨u, hread⟩ := exists_readMarkup_of_segments hsplit (by simp)
  rcases readMarkup_cases hread with ⟨v, source, hsame, hcomment⟩ | ⟨v, name, source, hsame, -⟩ |
    ⟨t, hsame⟩
  · obtain rfl := Segment.comment.inj hsame
    rcases written_of_readComment hcomment with hclosed | ⟨hopen, hbehind⟩
    · exact .inl hclosed
    · -- nothing is left behind the comment, so every tag stands in front of it
      have hend : c.2.stop = byteSize s := by
        have hsources := sources_segments s
        rw [hsplit, sources_append, sources_cons, hbehind, List.append_nil] at hsources
        rw [hholds.2, hstart, ← hsources, byteSize_append]
        rfl
      refine .inr ⟨hopen, hend, ?_⟩
      intro tag htag
      obtain ⟨p, hp, htagAt⟩ := exists_mem_places_of_mem_locatedTags htag
      obtain ⟨hlt, hle⟩ := bounds_of_mem_places hp
      rcases hapart tag htag with hbefore | hafter
      · exact hbefore
      · rw [extent_of_tagAt? hp htagAt] at hafter
        omega
  · cases hsame
  · cases hsame

/-- Where a comment or tag starts, a tag or a comment stands. -/
theorem taken_of_startsMarkup {a b : List Char} (hs : s = a ++ '<' :: b) (hb : StartsMarkup b) :
    Taken (locatedTags s) (locatedComments s) (byteSize a) := by
  obtain ⟨p, hmem, hmarkup, hle, hlt⟩ :=
    exists_place_of_readMarkup [] 0 hs (readMarkup_ne_none_iff.mpr hb)
  simp only [List.reverse_nil, byteSize_nil, Nat.zero_add] at hle hlt
  rcases exists_tagAt?_or_commentAt? hmarkup with ⟨tag, htag⟩ | ⟨c, hc⟩
  · refine .inl ⟨tag, ?_, ?_⟩
    · rw [locatedTags_eq]
      exact List.mem_filterMap.mpr ⟨p, hmem, htag⟩
    · rw [extent_of_tagAt? hmem htag]
      exact ⟨hle, hlt⟩
  · refine .inr ⟨c, List.mem_filterMap.mpr ⟨p, hmem, hc⟩, ?_⟩
    rw [eq_of_commentAt? hc] at hle hlt
    exact ⟨hle, hlt⟩

/-- The scan of any text finds tags and comments that are well placed in it. -/
theorem wellScanned (s : List Char) : WellScanned s (locatedTags s) (locatedComments s) where
  tags_placed _ h := placedTag_of_mem_locatedTags h
  tags_nonempty tag h := by
    obtain ⟨p, hp, htag⟩ := exists_mem_places_of_mem_locatedTags h
    rw [extent_of_tagAt? hp htag]
    exact (bounds_of_mem_places hp).1
  tags_ascend := by
    rw [locatedTags_eq, List.pairwise_filterMap]
    refine (pairwise_placedFrom Segment.source 0 (segments s)).imp_of_mem ?_
    intro p q hp hq hle tag htag other hother
    rw [extent_of_tagAt? hp htag, extent_of_tagAt? hq hother]
    exact hle
  comments_placed _ h := placedComment_of_mem_locatedComments h
  comments_ascend := by
    rw [locatedComments, List.pairwise_filterMap]
    refine (pairwise_placedFrom Segment.source 0 (segments s)).imp ?_
    intro p q hle c hc other hother
    rw [eq_of_commentAt? hc, eq_of_commentAt? hother] at hle
    exact hle
  found_start n h := by
    rcases h with ⟨tag, htag, rfl⟩ | ⟨c, hc, rfl⟩
    · obtain ⟨p, hp, htagAt⟩ := exists_mem_places_of_mem_locatedTags htag
      rw [extent_of_tagAt? hp htagAt]
      refine exists_startsMarkup_of_mem_places hp fun source htext => ?_
      rw [tagAt?, htext] at htagAt
      cases htagAt
    · refine exists_startsMarkup_of_mem_places (mem_places_of_mem_locatedComments hc) ?_
      intro source htext
      cases htext
  markup_found a b hs hb := taken_of_startsMarkup hs hb
  comments_found n h := by
    obtain ⟨a, b, hs, rfl⟩ := h
    exact taken_of_startsMarkup hs (.comment b)

/-- The tags of a text are not found in its comments, in a value, or where the text ends inside. -/
example :
    let s := "<!-- <i> --><p a='<b>' é>1</p\n><c d=\"><!--</p>".toList
    locatedTags s =
      [.opening ⟨['p'], [.attr ⟨['a'], some "<b>".toList, " a='<b>'".toList⟩,
          .attr ⟨['é'], none, " é".toList⟩], ['>'], false⟩
        [(⟨['a'], some "<b>".toList, " a='<b>'".toList⟩, ⟨14, 22⟩),
          (⟨['é'], none, " é".toList⟩, ⟨22, 25⟩)] ⟨12, 26⟩,
        .closing ['p'] ⟨27, 32⟩] ∧
      locatedComments s = [("<!-- <i> -->".toList, ⟨0, 12⟩), ("<!--</p>".toList, ⟨39, 47⟩)] := by
  decide +kernel

end Scan

end Stencil.Markup
