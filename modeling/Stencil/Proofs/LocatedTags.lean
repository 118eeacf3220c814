import Stencil.Proofs.Pairing
import Stencil.Proofs.Places

/-!
Where the tags of a text stand. Tags and their attributes are located by bytes from the start of the
text; plain text and comments only move what follows them. The tags that an element holds are found
in its content alone as they are found in the whole text, up to the place where the content starts.
-/
namespace Stencil.Markup

open Text

/-- The bytes from `start` on and in front of `stop`. -/
structure Extent where
  start : Nat
  stop : Nat
  deriving DecidableEq, Repr

namespace Extent

/-- The same bytes with `n` more in front of them. -/
def shift (n : Nat) (e : Extent) : Extent := ⟨n + e.start, n + e.stop⟩

/-- Whether bytes are all among some others. -/
def Within (e outer : Extent) : Prop := outer.start ≤ e.start ∧ e.stop ≤ outer.stop

instance (e outer : Extent) : Decidable (e.Within outer) :=
  inferInstanceAs (Decidable (_ ∧ _))

end Extent

/-- A tag and where it stands; an opening tag comes with its attributes and where these stand. -/
inductive LocatedTag where
  | opening (t : OpenTag) (attrs : List (Attr × Extent)) (extent : Extent)
  | closing (name : List Char) (extent : Extent)
  deriving DecidableEq, Repr

namespace LocatedTag

def extent : LocatedTag → Extent
  | .opening _ _ extent => extent
  | .closing _ extent => extent

/-- The same tag with `n` more bytes in front of it. -/
def shift (n : Nat) : LocatedTag → LocatedTag
  | .opening t attrs extent =>
    .opening t (attrs.map fun a => (a.1, a.2.shift n)) (extent.shift n)
  | .closing name extent => .closing name (extent.shift n)

end LocatedTag

/-- The attributes among the parts of a tag that stand at `start`. -/
def locatedAttrs (start : Nat) : List Part → List (Attr × Extent)
  | [] => []
  | .attr a :: parts =>
    (a, ⟨start, start + byteSize a.source⟩) :: locatedAttrs (start + byteSize a.source) parts
  | .stray source :: parts => locatedAttrs (start + byteSize source) parts

/-- The tag that a segment at `start` is, if any. -/
def Segment.located? (start : Nat) : Segment → Option LocatedTag
  | .openTag t =>
    some (.opening t (locatedAttrs (start + byteSize ('<' :: t.name)) t.parts)
      ⟨start, start + byteSize t.source⟩)
  | .closeTag name source => some (.closing name ⟨start, start + byteSize source⟩)
  | .text _ | .comment _ => none

/-- The tags among segments that stand at `start`. -/
def locatedFrom (start : Nat) : List Segment → List LocatedTag
  | [] => []
  | segment :: rest =>
    (segment.located? start).toList ++ locatedFrom (start + byteSize segment.source) rest

/-- The tags of a text in order. -/
def locatedTags (s : List Char) : List LocatedTag := locatedFrom 0 (segments s)

/-- The tags that take bytes of an extent only. -/
def tagsWithin (e : Extent) (tags : List LocatedTag) : List LocatedTag :=
  tags.filter fun tag => tag.extent.Within e

/-! ### Tags behind other text -/

theorem locatedFrom_append (start : Nat) (a b : List Segment) :
    locatedFrom start (a ++ b) =
      locatedFrom start a ++ locatedFrom (start + byteSize (sources a)) b := by
  induction a generalizing start with
  | nil => rfl
  | cons segment a ih =>
    rw [List.cons_append, locatedFrom, ih, locatedFrom, sources_cons, byteSize_append,
      List.append_assoc, Nat.add_assoc]

theorem locatedAttrs_add (n start : Nat) (parts : List Part) :
    locatedAttrs (n + start) parts =
      (locatedAttrs start parts).map fun a => (a.1, a.2.shift n) := by
  induction parts generalizing start with
  | nil => rfl
  | cons part parts ih =>
    cases part with
    | attr a =>
      rw [locatedAttrs, locatedAttrs, List.map_cons, Nat.add_assoc, ih]
      rfl
    | stray source => rw [locatedAttrs, locatedAttrs, Nat.add_assoc, ih]

theorem Segment.located?_add (n start : Nat) (segment : Segment) :
    segment.located? (n + start) = (segment.located? start).map (LocatedTag.shift n) := by
  cases segment with
  | openTag t =>
    simp only [located?, Option.map_some, LocatedTag.shift, Extent.shift, Nat.add_assoc,
      locatedAttrs_add n]
  | closeTag name source =>
    simp only [located?, Option.map_some, LocatedTag.shift, Extent.shift, Nat.add_assoc]
  | text source | comment source => rfl

/-- More text in front moves every tag by its bytes. -/
theorem locatedFrom_add (n start : Nat) (l : List Segment) :
    locatedFrom (n + start) l = (locatedFrom start l).map (LocatedTag.shift n) := by
  induction l generalizing start with
  | nil => rfl
  | cons segment l ih =>
    rw [locatedFrom, locatedFrom, Nat.add_assoc, ih, Segment.located?_add, List.map_append,
      Option.toList_map]

/-! ### The bytes of a tag -/

theorem Segment.extent_of_located? {start : Nat} {segment : Segment} {tag : LocatedTag}
    (h : segment.located? start = some tag) :
    tag.extent = ⟨start, start + byteSize segment.source⟩ := by
  cases segment with
  | openTag t | closeTag name source =>
    obtain rfl := Option.some.inj h
    rfl
  | text source | comment source => simp [located?] at h

/-- A tag among segments takes some of their bytes. -/
theorem extent_of_mem_locatedFrom {start : Nat} {l : List Segment} {tag : LocatedTag}
    (hl : ∀ segment ∈ l, segment.source ≠ []) (h : tag ∈ locatedFrom start l) :
    start ≤ tag.extent.start ∧ tag.extent.start < tag.extent.stop ∧
      tag.extent.stop ≤ start + byteSize (sources l) := by
  induction l generalizing start with
  | nil => simp [locatedFrom] at h
  | cons segment l ih =>
    rw [List.forall_mem_cons] at hl
    rw [locatedFrom, List.mem_append, Option.mem_toList] at h
    have hpos := byteSize_pos hl.1
    rw [sources_cons, byteSize_append]
    rcases h with hhere | hbehind
    · rw [Segment.extent_of_located? hhere]
      simp only
      omega
    · obtain ⟨hstart, hlt, hstop⟩ := ih hl.2 hbehind
      omega

theorem tagsWithin_append (e : Extent) (a b : List LocatedTag) :
    tagsWithin e (a ++ b) = tagsWithin e a ++ tagsWithin e b :=
  List.filter_append ..

theorem tagsWithin_eq_nil {e : Extent} {tags : List LocatedTag}
    (h : ∀ tag ∈ tags, ¬tag.extent.Within e) : tagsWithin e tags = [] :=
  List.filter_eq_nil_iff.mpr fun tag hmem hwithin => h tag hmem (of_decide_eq_true hwithin)

theorem tagsWithin_eq_self {e : Extent} {tags : List LocatedTag}
    (h : ∀ tag ∈ tags, tag.extent.Within e) : tagsWithin e tags = tags :=
  List.filter_eq_self.mpr fun tag hmem => decide_eq_true (h tag hmem)

/-- The tags among the middle ones of some segments are those within the bytes of these. -/
theorem tagsWithin_locatedFrom {a b c : List Segment} {e : Extent}
    (hstart : e.start = byteSize (sources a)) (hstop : e.stop = e.start + byteSize (sources b))
    (h : ∀ segment ∈ a ++ (b ++ c), segment.source ≠ []) :
    tagsWithin e (locatedFrom 0 (a ++ (b ++ c))) = locatedFrom e.start b := by
  simp only [List.forall_mem_append] at h
  obtain ⟨ha, hb, hc⟩ := h
  have hfront : tagsWithin e (locatedFrom 0 a) = [] := by
    apply tagsWithin_eq_nil
    intro tag hmem hwithin
    obtain ⟨-, hlt, hle⟩ := extent_of_mem_locatedFrom ha hmem
    have hfrom := hwithin.1
    omega
  have hmiddle : tagsWithin e (locatedFrom e.start b) = locatedFrom e.start b := by
    apply tagsWithin_eq_self
    intro tag hmem
    obtain ⟨hfrom, -, hle⟩ := extent_of_mem_locatedFrom hb hmem
    exact ⟨hfrom, by omega⟩
  have hback : tagsWithin e (locatedFrom e.stop c) = [] := by
    apply tagsWithin_eq_nil
    intro tag hmem hwithin
    obtain ⟨hfrom, hlt, -⟩ := extent_of_mem_locatedFrom hc hmem
    have hle := hwithin.2
    omega
  rw [locatedFrom_append, locatedFrom_append, Nat.zero_add, ← hstart, ← hstop, tagsWithin_append,
    tagsWithin_append, hfront, hmiddle, hback, List.nil_append, List.append_nil]

/-! ### The content of an element -/

/-- The bytes of what an element holds, for an opening tag that stands behind `before`. -/
def contentExtent (before : List Segment) (t : OpenTag) (p : Pairing) : Extent :=
  ⟨byteSize (sources before ++ t.source),
    byteSize (sources before ++ t.source) + byteSize (sources p.inner)⟩

/-- What an element holds is the text between its tags, and read alone it has the tags that stand
there in the whole text, counted from where it starts. -/
theorem locatedTags_content {s : List Char} {before rest : List Segment} {t : OpenTag}
    {p : Pairing} (hs : segments s = before ++ .openTag t :: rest)
    (hp : pair? t.name rest = some p) :
    s = sources before ++ t.source ++ sources p.inner ++ p.closing ++ sources p.rest ∧
      (locatedTags (sources p.inner)).map (LocatedTag.shift (contentExtent before t p).start) =
        tagsWithin (contentExtent before t p) (locatedTags s) := by
  obtain ⟨close, rfl, hclose⟩ := exists_split_of_pair? hp
  have hsplit : segments s = (before ++ [.openTag t]) ++ (p.inner ++ close :: p.rest) := by
    rw [hs, List.append_assoc, List.singleton_append]
  have hopening : sources (before ++ [.openTag t]) = sources before ++ t.source := by
    rw [sources_append, sources_cons]
    exact congrArg _ (List.append_nil t.source)
  constructor
  · calc
      s = sources (segments s) := (sources_segments s).symm
      _ = (sources before ++ t.source) ++ (sources p.inner ++ (p.closing ++ sources p.rest)) := by
        rw [hsplit, sources_append, hopening, sources_append, sources_cons,
          source_eq_of_closing? hclose]
      _ = _ := by simp only [List.append_assoc]
  · -- the content stands between boundaries of segments, so reading it alone changes none of them
    have hinner : segments (sources p.inner) = p.inner :=
      (segments_of_append (segments_of_append hsplit).2).1
    have hne : ∀ segment ∈ segments s, segment.source ≠ [] :=
      fun _ hmem => source_ne_nil_of_mem_segments hmem
    rw [hsplit] at hne
    have hstart : (contentExtent before t p).start =
        byteSize (sources (before ++ [.openTag t])) := by
      rw [hopening]
      rfl
    rw [locatedTags, locatedTags, hinner, hsplit, tagsWithin_locatedFrom hstart rfl hne]
    exact (locatedFrom_add _ 0 p.inner).symm

/-- A list item whose value and text hold characters that could open a tag, behind a character of
two bytes. -/
def itemText : List Char := "ä<li k='<'>1 < <b i=2>ü</b></LI>z".toList

def itemTag : OpenTag :=
  ⟨"li".toList, [.attr ⟨['k'], some ['<'], " k='<'".toList⟩], ['>'], false⟩

def innerAttr : Attr := ⟨['i'], some ['2'], " i=2".toList⟩

def innerTag : OpenTag := ⟨['b'], [.attr innerAttr], ['>'], false⟩

def itemPairing : Pairing where
  inner :=
    [.text "1 < ".toList, .openTag innerTag, .text ['ü'], .closeTag ['b'] "</b>".toList]
  closing := "</LI>".toList
  rest := [.text ['z']]

theorem locatedTags_content_itemText :
    locatedTags (sources itemPairing.inner) =
        [.opening innerTag [(innerAttr, ⟨6, 10⟩)] ⟨4, 11⟩, .closing ['b'] ⟨13, 17⟩] ∧
      (locatedTags (sources itemPairing.inner)).map (LocatedTag.shift 12) =
        tagsWithin ⟨12, 29⟩ (locatedTags itemText) := by
  let behind := itemPairing.inner ++ .closeTag "LI".toList "</LI>".toList :: itemPairing.rest
  have hs : segments itemText = [.text ['ä']] ++ .openTag itemTag :: behind := by decide +kernel
  have hp : pair? itemTag.name behind = some itemPairing := rfl
  have hcontent := (locatedTags_content hs hp).2
  have hextent : contentExtent [.text ['ä']] itemTag itemPairing = ⟨12, 29⟩ := by decide +kernel
  rw [hextent] at hcontent
  exact ⟨by decide +kernel, hcontent⟩

end Stencil.Markup
