import Stencil.Proofs.ScannedTag
import Stencil.Proofs.TagParts

/-!
Writing a tag again with some attributes left out or set anew. What is written is one tag with the
attributes that were asked for exactly if its parts still stand apart: an attribute that goes takes
the blanks in front of it along, and what stood on both sides of it can run together.
-/
namespace Stencil.Markup

open Text

variable {name ending rest src : List Char} {selfClosing : Bool} {parts : List Part}
  {t : OpenTag} {a : Attr} {q : QuotedAttr}

/-! ### Reading part by part -/

/-- Every part is read as it is in front of the parts behind it, and the tail ends the tag. -/
def Reads (ending : List Char) (selfClosing : Bool) : List Part → Prop
  | [] => readStep ending = .tail ending selfClosing []
  | p :: parts =>
    readStep (p.source ++ (parts.flatMap Part.source ++ ending)) =
        .part p (parts.flatMap Part.source ++ ending) ∧
      Reads ending selfClosing parts

theorem Reads.readStep_ending (h : Reads ending selfClosing parts) :
    readStep ending = .tail ending selfClosing [] := by
  induction parts with
  | nil => exact h
  | cons p parts ih => exact ih h.2

theorem Reads.spelled (h : Reads ending selfClosing parts) (ha : .attr a ∈ parts) : a.Spelled := by
  induction parts with
  | nil => simp at ha
  | cons p parts ih =>
    rcases List.mem_cons.mp ha with rfl | ha
    · exact (spelled_of_readStep h.1).1
    · exact ih h.2 ha

theorem Reads.ending_ne_nil (h : Reads ending selfClosing parts) : ending ≠ [] := by
  rintro rfl
  have hnil := h.readStep_ending
  simp [readStep] at hnil

/-- A tag that is read to the end of a text is read part by part. -/
theorem reads_of_readPartsFrom {s : List Char} {before : List Part}
    (h : readPartsFrom name before s = some (t, [])) :
    ∃ parts, t.name = name ∧ t.parts = before.reverse ++ parts ∧
      s = parts.flatMap Part.source ++ t.tail ∧ Reads t.tail t.selfClosing parts := by
  generalize hrest : [] = r at h
  fun_induction readPartsFrom name before s with
  | case1 before s p s' hp ih =>
    obtain ⟨parts, hname, hparts, hs, hreads⟩ := ih h
    refine ⟨p :: parts, hname, ?_, ?_, ?_, hreads⟩
    · rw [hparts, List.reverse_cons, List.append_assoc]
      rfl
    · rw [← (readStep_part hp).1, hs, List.flatMap_cons, List.append_assoc]
    · rw [← hs, (readStep_part hp).1, hp]
  | case2 before s source selfClosing r' hp =>
    simp only [Option.some.injEq, Prod.mk.injEq] at h
    obtain ⟨rfl, rfl⟩ := h
    subst hrest
    have hsource := readStep_tail hp
    rw [List.append_nil] at hsource
    subst hsource
    exact ⟨[], rfl, (List.append_nil _).symm, rfl, hp⟩
  | case3 => simp at h

theorem readPartsFrom_of_reads (before : List Part) (h : Reads ending selfClosing parts) :
    readPartsFrom name before (parts.flatMap Part.source ++ ending) =
      some (⟨name, before.reverse ++ parts, ending, selfClosing⟩, []) := by
  induction parts generalizing before with
  | nil => rw [List.append_nil]; exact readPartsFrom_tail name before h
  | cons p parts ih =>
    rw [List.flatMap_cons, List.append_assoc, readPartsFrom_part name before h.1, ih _ h.2]
    simp

/-- What a scan finds as a tag is read part by part. -/
theorem OpenTag.Scanned.reads (h : t.Scanned) :
    (∃ c n, t.name = c :: n ∧ isAsciiLetter c = true) ∧ (∀ c ∈ t.name, isNameChar c = true) ∧
      Reads t.tail t.selfClosing t.parts := by
  obtain ⟨w, hsource, hread⟩ := h.reading
  have hown := hread []
  rw [List.append_nil] at hown
  obtain ⟨c, v, rfl, hc, hopen⟩ := readMarkup_eq_openTag hown
  obtain ⟨parts, hname, hparts, -, hreads⟩ := reads_of_readPartsFrom hopen
  rw [List.reverse_nil, List.nil_append] at hparts
  have hfirst : isNameChar c = true := by
    rw [isNameChar, isAsciiAlphanumeric, hc]
    rfl
  refine ⟨⟨c, v.takeWhile isNameChar, ?_, hc⟩, ?_, hparts ▸ hreads⟩
  · rw [hname, List.takeWhile_cons, hfirst]
    rfl
  · rw [hname]
    exact all_takeWhile _ _

/-- The text of a tag is scanned as one tag. -/
theorem segments_eq_openTag_iff {c : Char} {n s : List Char} {u : OpenTag}
    (hc : isAsciiLetter c = true) :
    segments ('<' :: c :: (n ++ s)) = [.openTag u] ↔
      readOpenTag (c :: (n ++ s)) = some (u, []) := by
  constructor
  · intro h
    have hmem : .openTag u ∈ segments ('<' :: c :: (n ++ s)) := by simp [h]
    obtain ⟨w, hsource, hread⟩ := OpenTag.reading_of_mem_segments hmem
    have hsources := sources_segments ('<' :: c :: (n ++ s))
    rw [h] at hsources
    have hw : u.source = '<' :: c :: (n ++ s) := by simpa [sources, Segment.source] using hsources
    obtain rfl := List.cons.inj (hsource.symm.trans hw) |>.2
    have hown := hread []
    rw [List.append_nil] at hown
    obtain ⟨-, -, -, -, hopen⟩ := readMarkup_eq_openTag hown
    exact hopen
  · intro h
    have hread : readMarkup (c :: (n ++ s)) = some (.openTag u, []) := by
      rw [readMarkup_of_letter _ hc, h]
      rfl
    rw [segments_markup hread, segments_nil]

/-! ### Changes -/

/-- An attribute without the blanks in front of it. -/
def QuotedAttr.text (q : QuotedAttr) : List Char := q.name ++ '=' :: '"' :: (q.value ++ ['"'])

/-- The name and the value of an attribute. -/
def Attr.content (a : Attr) : List Char × Option (List Char) := (a.name, a.value)

/-- What is asked for at an attribute: it stays, it goes, or it becomes another one. -/
inductive Change where
  | keep
  | drop
  | set (q : QuotedAttr)
  deriving DecidableEq, Repr

namespace Change

def edit : Change → Edit
  | keep => .keep
  | drop => .drop
  | set q => .replace q.text

/-- The attribute after the change, behind the same blanks. -/
def attr? (a : Attr) : Change → Option Attr
  | keep => some a
  | drop => none
  | set q => some ⟨q.name, some q.value, a.indent ++ q.text⟩

/-- The name and the value that are asked for. -/
def content? (a : Attr) : Change → Option (List Char × Option (List Char))
  | keep => some a.content
  | drop => none
  | set q => some (q.name, some q.value)

/-- What is set can be read. -/
def Readable : Change → Prop
  | set q => q.Readable
  | keep | drop => True

instance : DecidablePred Readable
  | set q => inferInstanceAs (Decidable q.Readable)
  | keep | drop => inferInstanceAs (Decidable True)

theorem content?_eq (c : Change) : c.content? a = (c.attr? a).map Attr.content := by
  cases c <;> rfl

end Change

variable (change : Attr → Change)

/-- A part after the change of its attribute. -/
def Part.changed? : Part → Option Part
  | .attr a => ((change a).attr? a).map .attr
  | .stray source => some (.stray source)

/-- The text of parts after the change. -/
def changedText (parts : List Part) : List Char :=
  (parts.filterMap (Part.changed? change)).flatMap Part.source

/-- The tag after the change. -/
def OpenTag.changed (t : OpenTag) : OpenTag :=
  ⟨t.name, t.parts.filterMap (Part.changed? change), t.tail, t.selfClosing⟩

/-- Writing a tag again writes the changed tag. -/
theorem OpenTag.rebuild_eq_changed {ε : Type} (t : OpenTag) :
    (t.rebuild fun a => .ok (change a).edit : Except ε (List Char)) =
      .ok (t.changed change).source := by
  have htext : ∀ p ∈ t.parts, p.edited (fun a => (.ok (change a).edit : Except ε Edit)) =
      .ok (((p.changed? change).map Part.source).getD []) := by
    intro p _
    cases p with
    | stray source => rfl
    | attr a =>
      simp only [Part.edited, Part.changed?, bind, Except.bind, pure, Except.pure]
      cases change a <;> rfl
  have hflat : ∀ parts : List Part,
      parts.flatMap (fun p => ((p.changed? change).map Part.source).getD []) =
        (parts.filterMap (Part.changed? change)).flatMap Part.source := by
    intro parts
    induction parts with
    | nil => rfl
    | cons p parts ih =>
      rw [List.flatMap_cons, List.filterMap_cons, ih]
      cases p.changed? change <;> rfl
  rw [OpenTag.rebuild_eq_map, concatM_eq_ok htext, hflat]
  rfl

/-- What the part becomes can be told from what follows it. An attribute that is set anew must not
have a name that starts with a blank, which would stay in front of the new name. -/
def Part.StandsApart (rest : List Char) : Part → Prop
  | .stray source => strayEndsBefore source rest
  | .attr a =>
    match change a with
    | .keep => a.EndsBefore rest
    | .drop => True
    | .set _ => a.name.takeWhile isBlank = []

instance (rest : List Char) : DecidablePred (Part.StandsApart change rest)
  | .stray source => inferInstanceAs (Decidable (strayEndsBefore source rest))
  | .attr a =>
    match h : change a with
    | .keep => decidable_of_iff (a.EndsBefore rest) (by rw [Part.StandsApart, h])
    | .drop => decidable_of_iff True (by rw [Part.StandsApart, h])
    | .set _ => decidable_of_iff (a.name.takeWhile isBlank = []) (by rw [Part.StandsApart, h])

/-- Every part stands apart from what is written behind it. -/
def StandApart (ending : List Char) : List Part → Prop
  | [] => True
  | p :: parts =>
    p.StandsApart change (changedText change parts ++ ending) ∧ StandApart ending parts

instance decidableStandApart (ending : List Char) : DecidablePred (StandApart change ending)
  | [] => isTrue trivial
  | p :: parts =>
    have := decidableStandApart ending parts
    inferInstanceAs (Decidable (p.StandsApart change (changedText change parts ++ ending) ∧
      StandApart change ending parts))

/-- The name and the parts of the changed tag do not run together. -/
structure OpenTag.Apart (t : OpenTag) : Prop where
  name : (changedText change t.parts ++ t.tail).takeWhile isNameChar = []
  parts : StandApart change t.tail t.parts

instance (t : OpenTag) : Decidable (t.Apart change) :=
  decidable_of_iff ((changedText change t.parts ++ t.tail).takeWhile isNameChar = [] ∧
    StandApart change t.tail t.parts) ⟨fun h => ⟨h.1, h.2⟩, fun h => ⟨h.name, h.parts⟩⟩

variable {change}

/-! ### Parts that stand apart are read back -/

/-- A name that starts with no blank has only the blanks of markup in front of it. -/
theorem Attr.Spelled.indent_blanks (h : a.Spelled) (hname : a.name.takeWhile isBlank = []) :
    ∀ c ∈ a.indent, isMarkupBlank c = true := by
  have hindent : ∀ {blanks name : List Char} (s : List Char), SpelledName blanks name →
      name.takeWhile isBlank = [] → (blanks ++ (name ++ s)).takeWhile isBlank = blanks := by
    intro blanks name s hspelled hname
    refine (takeWhile_append_eq_self_iff fun c hc => ?_).mpr
      (takeWhile_append_eq_nil hspelled.name_ne_nil hname s)
    exact isBlank_of_isMarkupBlank (hspelled.blanks c hc)
  cases h with
  | @bare blanks name hspelled =>
    rw [Attr.indent, ← List.append_nil (blanks ++ name), List.append_assoc,
      hindent [] hspelled hname]
    exact hspelled.blanks
  | @valued blanks name value source hspelled hvalue =>
    rw [Attr.indent, List.append_assoc, hindent source hspelled hname]
    exact hspelled.blanks

/-- An attribute in quotes behind blanks is read whatever follows it. -/
theorem readStep_quoted (hq : q.Readable) {blanks : List Char}
    (hblanks : ∀ c ∈ blanks, isMarkupBlank c = true) (hrest : rest ≠ []) :
    readStep (blanks ++ q.text ++ rest) =
      .part (.attr ⟨q.name, some q.value, blanks ++ q.text⟩) rest := by
  have hname : SpelledName blanks q.name := ⟨hblanks, hq.name_ne_nil, hq.name_chars⟩
  have hnil : ∀ c ∈ ([] : List Char), isMarkupBlank c = true := fun c hc => nomatch hc
  have hspelled : (Attr.mk q.name (some q.value) (blanks ++ q.text)).Spelled := by
    have hvalued := Attr.Spelled.valued hname
      (.quoted [] [] q.value '"' hnil hnil (by decide) hq.value_quotes)
    rwa [List.append_assoc] at hvalued
  have hquote : isQuote '"' = true := by decide
  have hquoted := isQuoted_quoted hname hnil hnil hquote (some q.value) (q.value ++ ['"'])
  rw [List.append_assoc blanks] at hquoted
  exact hspelled.readStep hrest (Or.inl hquoted)

theorem reads_changed (hreads : Reads ending selfClosing parts)
    (hchange : ∀ a, .attr a ∈ parts → (change a).Readable)
    (hapart : StandApart change ending parts) :
    Reads ending selfClosing (parts.filterMap (Part.changed? change)) := by
  induction parts with
  | nil => exact hreads
  | cons p parts ih =>
    have htail := ih hreads.2 (fun a ha => hchange a (List.mem_cons_of_mem _ ha)) hapart.2
    have hrest : changedText change parts ++ ending ≠ [] :=
      List.append_ne_nil_of_right_ne_nil _ hreads.ending_ne_nil
    have hp := hapart.1
    cases p with
    | stray source =>
      obtain ⟨blanks, c, hstray⟩ := spelledStray_of_readStep hreads.1
      exact ⟨hstray.readStep hp, htail⟩
    | attr a =>
      have hspelled := (spelled_of_readStep hreads.1).1
      have hreadable := hchange a (List.mem_cons_self ..)
      rw [Part.StandsApart] at hp
      rw [List.filterMap_cons, Part.changed?]
      cases hc : change a with
      | keep =>
        rw [hc] at hp
        exact ⟨hspelled.readStep hrest hp, htail⟩
      | drop => exact htail
      | set q =>
        rw [hc] at hp hreadable
        exact ⟨readStep_quoted hreadable (hspelled.indent_blanks hp) hrest, htail⟩

/-! ### Parts that do not stand apart show -/

theorem isAttrNameChar_of_isBlank {c : Char} (h : isBlank c = true)
    (hc : isMarkupBlank c = false) : isAttrNameChar c = true := by
  have hspecial : (c == '=' || c == '>' || c == '/' || c == '"' || c == '\'' || c == '<') =
      false := by
    simp only [Bool.or_eq_false_iff, beq_eq_false_iff_ne]
    refine ⟨⟨⟨⟨⟨?_, ?_⟩, ?_⟩, ?_⟩, ?_⟩, ?_⟩ <;>
    · rintro rfl
      exact absurd h (by decide)
  rw [isAttrNameChar, hc, hspecial]
  rfl

/-- Behind blanks of any kind no equals sign comes before the next name. -/
theorem head?_dropWhile_ne_equals {blanks : List Char} (hblanks : ∀ c ∈ blanks, isBlank c = true)
    (hq : q.Readable) (s : List Char) :
    ((blanks ++ (q.name ++ s)).dropWhile isMarkupBlank).head? ≠ some '=' := by
  induction blanks with
  | nil =>
    obtain ⟨c, n, hname⟩ := List.exists_cons_of_ne_nil hq.name_ne_nil
    have hc := isAttrNameChar_cases (hq.name_chars c (by simp [hname]))
    simp [hname, hc.1, hc.2.1]
  | cons c blanks ih =>
    cases hc : isMarkupBlank c with
    | true =>
      rw [List.cons_append, List.dropWhile_cons, if_pos hc]
      exact ih fun d hd => hblanks d (List.mem_cons_of_mem _ hd)
    | false =>
      have hname := isAttrNameChar_of_isBlank (hblanks c (List.mem_cons_self ..)) hc
      simp [hc, (isAttrNameChar_cases hname).2.1]

theorem Attr.Spelled.exists_source (h : a.Spelled) :
    ∃ blanks source, SpelledName blanks a.name ∧ a.source = blanks ++ (a.name ++ source) := by
  cases h with
  | @bare blanks name hname => exact ⟨blanks, [], hname, by rw [List.append_nil]⟩
  | @valued blanks name value source hname => exact ⟨blanks, source, hname, List.append_assoc ..⟩

/-- Where blanks stay in front of a new name that are none of markup, another attribute is read. -/
theorem content_ne_of_indent (h : a.Spelled) (hname : a.name.takeWhile isBlank ≠ [])
    (hq : q.Readable) (hread : readStep (a.indent ++ q.text ++ rest) ≠ .unfinished) :
    ∃ b r, readStep (a.indent ++ q.text ++ rest) = .part (.attr b) r ∧
      b.content ≠ (q.name, some q.value) := by
  obtain ⟨blanks, source, hspelled, hsource⟩ := h.exists_source
  obtain ⟨c, n, hcons, hc⟩ := hspelled.exists_cons
  have hblank : isBlank c = true := by
    rw [hcons, List.takeWhile_cons] at hname
    cases hc : isBlank c with
    | true => rfl
    | false => simp [hc] at hname
  -- the blanks in front of the new name go on with the start of the old name
  have hindent : a.indent = blanks ++ c :: (n ++ source).takeWhile isBlank := by
    rw [Attr.indent, hsource, List.takeWhile_append_of_pos
      (fun d hd => isBlank_of_isMarkupBlank (hspelled.blanks d hd)), hcons, List.cons_append,
      List.takeWhile_cons, if_pos hblank]
  have hw := all_takeWhile isBlank (n ++ source)
  generalize (n ++ source).takeWhile isBlank = w at hindent hw
  have htext : a.indent ++ q.text ++ rest =
      blanks ++ (c :: (w ++ (q.name ++ '=' :: '"' :: (q.value ++ '"' :: rest)))) := by
    simp [hindent, QuotedAttr.text]
  generalize hv : c :: (w ++ (q.name ++ '=' :: '"' :: (q.value ++ '"' :: rest))) = v at htext
  have hchars := takeWhile_dropWhile isAttrNameChar v
  have hnew : SpelledName blanks (v.takeWhile isAttrNameChar) :=
    ⟨hspelled.blanks, by simp [← hv, hc], all_takeWhile _ _⟩
  rw [htext, ← List.takeWhile_append_dropWhile (p := isAttrNameChar) (l := v), readStep_name hnew,
    readAttr_name hnew hchars] at hread ⊢
  cases hvalue : readValue (v.dropWhile isAttrNameChar) with
  | unfinished => simp [hvalue] at hread
  | absent => exact ⟨_, _, rfl, fun he => by simp [Attr.content] at he⟩
  | found value source' r =>
    refine ⟨_, _, rfl, fun he => ?_⟩
    have hsame : v.takeWhile isAttrNameChar = q.name := congrArg Prod.fst he
    have hequals : isAttrNameChar '=' = false := by decide
    by_cases hall : w.dropWhile isAttrNameChar = []
    · have hwhole := List.takeWhile_append_dropWhile (p := isAttrNameChar) (l := w)
      rw [hall, List.append_nil] at hwhole
      have hwchars : ∀ d ∈ c :: w, isAttrNameChar d = true := by
        intro d hd
        rcases List.mem_cons.mp hd with rfl | hd
        · exact hc
        · exact all_takeWhile _ w d (hwhole.symm ▸ hd)
      rw [← hv, ← List.cons_append, List.takeWhile_append_of_pos hwchars,
        takeWhile_append_cons _ hq.name_chars hequals] at hsame
      have hlen := congrArg List.length hsame
      simp only [List.length_append, List.length_cons] at hlen
      omega
    · have hdrop : v.dropWhile isAttrNameChar =
          w.dropWhile isAttrNameChar ++ (q.name ++ '=' :: '"' :: (q.value ++ '"' :: rest)) := by
        rw [← hv, List.dropWhile_cons, if_pos hc, List.dropWhile_append,
          if_neg (by simpa using hall)]
      have hblanks : ∀ d ∈ w.dropWhile isAttrNameChar, isBlank d = true :=
        fun d hd => hw d ((List.dropWhile_suffix _).subset hd)
      have habsent :=
        head?_dropWhile_ne_equals hblanks hq ('=' :: '"' :: (q.value ++ '"' :: rest))
      rw [← hdrop, ← readValue_absent_iff, hvalue] at habsent
      simp at habsent

/-- What is read first is the first part. -/
theorem Reads.exists_cons {s r : List Char} {p : Part} (h : Reads ending selfClosing parts)
    (hs : parts.flatMap Part.source ++ ending = s) (hread : readStep s = .part p r) :
    ∃ more, parts = p :: more ∧ more.flatMap Part.source ++ ending = r ∧
      Reads ending selfClosing more := by
  subst hs
  cases parts with
  | nil =>
    rw [List.flatMap_nil, List.nil_append, h.readStep_ending] at hread
    simp at hread
  | cons q more =>
    rw [List.flatMap_cons, List.append_assoc, h.1] at hread
    obtain ⟨rfl, hr⟩ := TagStep.part.inj hread
    exact ⟨more, rfl, hr, h.2⟩

theorem Reads.readStep_ne_unfinished (h : Reads ending selfClosing parts) :
    readStep (parts.flatMap Part.source ++ ending) ≠ .unfinished := by
  cases parts with
  | nil =>
    rw [List.flatMap_nil, List.nil_append, h.readStep_ending]
    simp
  | cons p parts =>
    rw [List.flatMap_cons, List.append_assoc, h.1]
    simp

/-- What is read as the tail leaves no parts. -/
theorem Reads.eq_of_readStep_tail {s source r : List Char} {sc : Bool}
    (h : Reads ending selfClosing parts) (hs : parts.flatMap Part.source ++ ending = s)
    (hread : readStep s = .tail source sc r) : ending = source ∧ selfClosing = sc ∧ r = [] := by
  subst hs
  cases parts with
  | nil =>
    rw [List.flatMap_nil, List.nil_append, h.readStep_ending] at hread
    obtain ⟨hsource, hsc, hr⟩ := TagStep.tail.inj hread
    exact ⟨hsource, hsc, hr.symm⟩
  | cons p parts =>
    rw [List.flatMap_cons, List.append_assoc, h.1] at hread
    simp at hread

/-- The names and values of the attributes among the parts. -/
def contents (parts : List Part) : List (List Char × Option (List Char)) :=
  (parts.filterMap Part.attr?).map Attr.content

theorem contents_changed (change : Attr → Change) (parts : List Part) :
    contents (parts.filterMap (Part.changed? change)) =
      (parts.filterMap Part.attr?).filterMap fun a => (change a).content? a := by
  induction parts with
  | nil => rfl
  | cons p parts ih =>
    cases p with
    | stray source => exact ih
    | attr a =>
      rw [List.filterMap_cons, Part.changed?, List.filterMap_cons, Part.attr?]
      simp only [List.filterMap_cons, Change.content?_eq] at ih ⊢
      cases (change a).attr? a with
      | none => exact ih
      | some b => exact congrArg (b.content :: ·) ih

/-- A value that is empty without quotes is followed by the end of its tag. -/
theorem eq_nil_of_empty_value (hreads : Reads ending selfClosing parts)
    (hends : a.EndsBefore (parts.flatMap Part.source ++ ending)) (hvalue : a.value = some [])
    (hquoted : a.isQuoted = false) : parts = [] := by
  rw [Attr.EndsBefore, hvalue] at hends
  obtain ⟨hchars, hblank⟩ := hends.resolve_left fun h => Bool.false_ne_true (hquoted.symm.trans h)
  cases parts with
  | nil => rfl
  | cons p parts =>
    exfalso
    have hread := hreads.1
    rw [List.flatMap_cons, List.append_assoc] at hchars hblank
    generalize p.source ++ (parts.flatMap Part.source ++ ending) = s at hchars hblank hread
    cases s with
    | nil => simp [readStep] at hread
    | cons c s =>
      have hc : c = '>' := by
        have hc : isUnquoted c = false := by
          cases hc : isUnquoted c with
          | false => rfl
          | true => simp [hc] at hchars
        have hb : isMarkupBlank c = false := by
          cases hb : isMarkupBlank c with
          | false => rfl
          | true => simp [hb] at hblank
        simpa [isUnquoted, hb] using hc
      rw [hc, Head.readStep_end] at hread
      simp at hread

/-- If the text after the change is read as parts with the contents that were asked for, and the tag
ends as it did, the parts stand apart. -/
theorem standApart_of_reads {tail : List Char} {more : List Part}
    (hreads : Reads ending selfClosing parts)
    (hchange : ∀ a, .attr a ∈ parts → (change a).Readable) (hmore : Reads tail selfClosing more)
    (htext : more.flatMap Part.source ++ tail = changedText change parts ++ ending)
    (hcontents : contents more = contents (parts.filterMap (Part.changed? change))) :
    StandApart change ending parts := by
  induction parts generalizing more with
  | nil => trivial
  | cons p parts ih =>
    have hrest : changedText change parts ++ ending ≠ [] :=
      List.append_ne_nil_of_right_ne_nil _ hreads.ending_ne_nil
    have hchange' : ∀ a, .attr a ∈ parts → (change a).Readable :=
      fun a ha => hchange a (List.mem_cons_of_mem _ ha)
    have hfinished := hmore.readStep_ne_unfinished
    cases p with
    | stray source =>
      obtain ⟨blanks, c, hstray⟩ := spelledStray_of_readStep hreads.1
      have htext : more.flatMap Part.source ++ tail =
          source ++ (changedText change parts ++ ending) := by
        rw [htext, ← List.append_assoc]
        rfl
      by_cases hends : strayEndsBefore source (changedText change parts ++ ending)
      · obtain ⟨more, rfl, hr, hmore⟩ := hmore.exists_cons htext (hstray.readStep hends)
        exact ⟨hends, ih hreads.2 hchange' hmore hr hcontents⟩
      · -- the tag would end here, so that nothing but its end is left behind the slash
        exfalso
        obtain ⟨r, hr, hslash⟩ := hstray.readStep_of_slash hends
        obtain ⟨-, rfl, rfl⟩ := hmore.eq_of_readStep_tail htext hslash
        have hending := hreads.readStep_ending
        obtain ⟨-, rfl⟩ | ⟨-, hnil⟩ := List.append_eq_singleton_iff.mp hr
        · rw [Head.readStep_end] at hending
          simp at hending
        · exact hreads.ending_ne_nil hnil
    | attr a =>
      obtain ⟨hspelled, hends⟩ := spelled_of_readStep hreads.1
      have hreadable := hchange a (List.mem_cons_self ..)
      rw [StandApart, Part.StandsApart]
      rw [changedText, List.filterMap_cons, Part.changed?] at htext
      rw [List.filterMap_cons, Part.changed?] at hcontents
      cases hc : change a with
      | drop =>
        rw [hc] at htext hcontents
        exact ⟨trivial, ih hreads.2 hchange' hmore htext hcontents⟩
      | keep =>
        rw [hc] at htext hcontents
        have htext : more.flatMap Part.source ++ tail =
            a.source ++ (changedText change parts ++ ending) := by
          rw [htext, ← List.append_assoc]
          rfl
        obtain ⟨b, r, hread, hsame⟩ := hspelled.endsBefore_of_readStep (htext ▸ hfinished)
        obtain ⟨more', rfl, -, -⟩ := hmore.exists_cons htext hread
        obtain ⟨hb, -⟩ := List.cons.inj hcontents
        have hends : a.EndsBefore (changedText change parts ++ ending) := by
          by_cases hne : a.isQuoted = true ∨ a.value ≠ some []
          · exact hsame (congrArg Prod.fst hb) (congrArg Prod.snd hb) hne
          · obtain ⟨hquoted, hvalue⟩ := not_or.mp hne
            obtain rfl := eq_nil_of_empty_value hreads.2 hends (Classical.not_not.mp hvalue)
              (Bool.eq_false_iff.mpr hquoted)
            exact hends
        obtain ⟨more, hcons, hr, hmore⟩ := hmore.exists_cons htext (hspelled.readStep hrest hends)
        obtain ⟨-, rfl⟩ := List.cons.inj hcons
        exact ⟨hends, ih hreads.2 hchange' hmore hr (List.cons.inj hcontents).2⟩
      | set q =>
        rw [hc] at htext hcontents hreadable
        have htext : more.flatMap Part.source ++ tail =
            a.indent ++ q.text ++ (changedText change parts ++ ending) := by
          rw [htext, ← List.append_assoc]
          rfl
        by_cases hname : a.name.takeWhile isBlank = []
        · obtain ⟨more, rfl, hr, hmore⟩ := hmore.exists_cons htext
            (readStep_quoted hreadable (hspelled.indent_blanks hname) hrest)
          exact ⟨hname, ih hreads.2 hchange' hmore hr (List.cons.inj hcontents).2⟩
        · obtain ⟨b, r, hread, hne⟩ := content_ne_of_indent hspelled hname hreadable
            (htext ▸ hfinished)
          obtain ⟨more, rfl, -, -⟩ := hmore.exists_cons htext hread
          exact absurd (List.cons.inj hcontents).1 hne

/-! ### Writing a tag again -/

theorem OpenTag.mem_attrs : a ∈ t.attrs ↔ .attr a ∈ t.parts := by
  rw [OpenTag.attrs, List.mem_filterMap]
  constructor
  · rintro ⟨p, hp, ha⟩
    cases p with
    | attr b =>
      obtain rfl := Option.some.inj ha
      exact hp
    | stray source => simp [Part.attr?] at ha
  · exact fun ha => ⟨_, ha, rfl⟩

/-- The text of a changed tag is scanned as what is read at its name. -/
theorem OpenTag.Scanned.segments_changed_iff {u : OpenTag} (h : t.Scanned) :
    segments (t.changed change).source = [.openTag u] ↔
      readOpenTag (t.name ++ (changedText change t.parts ++ t.tail)) = some (u, []) := by
  obtain ⟨⟨c, n, hname, hc⟩, -, -⟩ := h.reads
  have hsource : (t.changed change).source =
      '<' :: c :: (n ++ (changedText change t.parts ++ t.tail)) := by
    simp [OpenTag.source, OpenTag.changed, changedText, hname]
  rw [hsource, segments_eq_openTag_iff hc, hname, List.cons_append]

/-- The changed tag is read back if the name and the parts stand apart. -/
theorem OpenTag.Scanned.changed (h : t.Scanned) (hchange : ∀ a ∈ t.attrs, (change a).Readable)
    (hapart : t.Apart change) : (t.changed change).Scanned := by
  obtain ⟨-, hchars, hreads⟩ := h.reads
  have hchange : ∀ a, .attr a ∈ t.parts → (change a).Readable :=
    fun a ha => hchange a (OpenTag.mem_attrs.mpr ha)
  have hparts := reads_changed hreads hchange hapart.parts
  rw [OpenTag.Scanned, h.segments_changed_iff, readOpenTag,
    (takeWhile_append_eq_self_iff hchars).mpr hapart.name, List.dropWhile_append_of_pos hchars,
    dropWhile_eq_self hapart.name]
  exact readPartsFrom_of_reads [] hparts

/-- Writing a tag again, with every attribute kept, dropped or set to one in quotes, gives one tag
with the same name and end and the attributes that were asked for exactly if nothing in it runs
together. -/
theorem OpenTag.segments_rebuild_iff {ε : Type} (h : .openTag t ∈ segments src)
    (hchange : ∀ a ∈ t.attrs, (change a).Readable) :
    ∃ out, (t.rebuild fun a => .ok (change a).edit : Except ε (List Char)) = .ok out ∧
      ((∃ u, segments out = [.openTag u] ∧ u.source = out ∧ u.name = t.name ∧
          u.selfClosing = t.selfClosing ∧
          u.attrs.map Attr.content = t.attrs.filterMap fun a => (change a).content? a) ↔
        t.Apart change) := by
  have hscanned := OpenTag.scanned_of_mem_segments h
  refine ⟨_, t.rebuild_eq_changed change, ?_, ?_⟩
  · rintro ⟨u, hu, -, hname, hclosing, hattrs⟩
    obtain ⟨-, hchars, hreads⟩ := hscanned.reads
    rw [hscanned.segments_changed_iff, readOpenTag] at hu
    obtain ⟨parts, hown, hparts, htext, hmore⟩ := reads_of_readPartsFrom hu
    have hbehind : (changedText change t.parts ++ t.tail).takeWhile isNameChar = [] :=
      (takeWhile_append_eq_self_iff hchars).mp (hown.symm.trans hname)
    rw [List.dropWhile_append_of_pos hchars, dropWhile_eq_self hbehind] at htext
    rw [List.reverse_nil, List.nil_append] at hparts
    refine ⟨hbehind, standApart_of_reads hreads ?_ (hclosing ▸ hmore) htext.symm ?_⟩
    · exact fun a ha => hchange a (OpenTag.mem_attrs.mpr ha)
    · rw [contents_changed, ← hparts]
      exact hattrs
  · intro hapart
    refine ⟨t.changed change, hscanned.changed hchange hapart, rfl, rfl, rfl, ?_⟩
    exact contents_changed change t.parts

/-- The guard goes, and the identifier is bound to a text. -/
def resolveGuarded (a : Attr) : Change :=
  if a.name = "if".toList then .drop
  else if a.name = "bind:id".toList then .set ⟨"id".toList, "top".toList⟩
  else .keep

/-- `<p if="ok" bind:id="k" class="a">` becomes `<p id="top" class="a">`. -/
theorem OpenTag.segments_rebuild_paragraph :
    let head : Head := ⟨"p".toList,
      [⟨"if".toList, "ok".toList⟩, ⟨"bind:id".toList, "k".toList⟩, ⟨"class".toList, "a".toList⟩]⟩
    (.openTag head.tag ∈ segments head.tag.source ∧
      (∀ a ∈ head.tag.attrs, (resolveGuarded a).Readable) ∧ head.tag.Apart resolveGuarded) ∧
    ∃ out,
      (head.tag.rebuild fun a => .ok (resolveGuarded a).edit : Except Empty (List Char)) = .ok out ∧
      ∃ u, segments out = [.openTag u] ∧ u.source = out ∧ u.name = head.tag.name ∧
        u.selfClosing = head.tag.selfClosing ∧
        u.attrs.map Attr.content =
          head.tag.attrs.filterMap fun a => (resolveGuarded a).content? a := by
  intro head
  have hscanned : head.tag.Scanned := Head.scanned_tag (by decide)
  have hmem : .openTag head.tag ∈ segments head.tag.source := by
    rw [hscanned]
    exact List.mem_singleton_self _
  have hchange : ∀ a ∈ head.tag.attrs, (resolveGuarded a).Readable := by decide
  have hapart : head.tag.Apart resolveGuarded := by decide
  obtain ⟨out, hout, hiff⟩ := OpenTag.segments_rebuild_iff (ε := Empty) hmem hchange
  exact ⟨⟨hmem, hchange, hapart⟩, out, hout, hiff.mpr hapart⟩

/-- Without its guard, `<p if="ok"class="a">` is `<pclass="a">`. -/
theorem OpenTag.segments_rebuild_ne :
    ¬ ∀ (src : List Char) (t : OpenTag) (change : Attr → Change), .openTag t ∈ segments src →
      (∀ a ∈ t.attrs, (change a).Readable) →
      ∃ out, (t.rebuild fun a => .ok (change a).edit : Except Empty (List Char)) = .ok out ∧
        ∃ u, segments out = [.openTag u] ∧ u.source = out ∧ u.name = t.name ∧
          u.selfClosing = t.selfClosing ∧
          u.attrs.map Attr.content = t.attrs.filterMap fun a => (change a).content? a := by
  intro hall
  let guard : Attr := ⟨"if".toList, some "ok".toList, " if=\"ok\"".toList⟩
  let style : Attr := ⟨"class".toList, some "a".toList, "class=\"a\"".toList⟩
  let t : OpenTag := ⟨['p'], [.attr guard, .attr style], ['>'], false⟩
  have hreads : Reads ['>'] false [.attr guard, .attr style] := ⟨rfl, rfl, rfl⟩
  have hscanned : t.Scanned :=
    (segments_eq_openTag_iff (n := []) (by decide)).mpr
      (readPartsFrom_of_reads [] hreads)
  have hmem : .openTag t ∈ segments t.source := by
    rw [hscanned]
    exact List.mem_singleton_self _
  obtain ⟨out, hout, u, hu, -, hname, -⟩ := hall t.source t resolveGuarded hmem (by decide)
  obtain rfl : "<pclass=\"a\">".toList = out := by
    rw [t.rebuild_eq_changed resolveGuarded] at hout
    exact Except.ok.inj hout
  have hopen := (segments_eq_openTag_iff (c := 'p') (n := "class".toList) (s := "=\"a\">".toList)
    (by decide)).mp hu
  obtain ⟨parts, hown, -⟩ := reads_of_readPartsFrom hopen
  rw [hname] at hown
  exact absurd hown (by decide)

end Stencil.Markup
