import Stencil.Proofs.Head
import Stencil.Proofs.Replacing

/-!
Templates as trees: plain text and elements in a row, every element with a head and with what it
holds. The text of a readable tree is scanned back along the tree, the closing tag of an element
pairs with its head, and replacing marked elements or tags of the text is the same as replacing them
in the tree.
-/
namespace Stencil

open Text Markup

/-- Texts and elements in a row. -/
inductive Template where
  | nil
  | text (s : List Char) (rest : Template)
  | element (head : Head) (inner rest : Template)
  deriving DecidableEq, Repr

namespace Template

def source : Template → List Char
  | nil => []
  | text s rest => s ++ rest.source
  | element head inner rest => head.source ++ (inner.source ++ (head.closing ++ rest.source))

def append : Template → Template → Template
  | nil, t => t
  | text s rest, t => text s (rest.append t)
  | element head inner rest, t => element head inner (rest.append t)

/-- Templates one behind the other. -/
def join : List Template → Template
  | [] => nil
  | t :: ts => t.append (join ts)

theorem append_assoc (t u v : Template) : (t.append u).append v = t.append (u.append v) := by
  induction t with
  | nil => rfl
  | text s rest ih => rw [append, append, append, ih]
  | element head inner rest _ ih => rw [append, append, append, ih]

theorem source_append (t u : Template) : (t.append u).source = t.source ++ u.source := by
  induction t with
  | nil => rfl
  | text s rest ih => simp [append, source, ih]
  | element head inner rest _ ih => simp [append, source, ih]

theorem source_join (ts : List Template) : (join ts).source = ts.flatMap source := by
  induction ts with
  | nil => rfl
  | cons t ts ih => rw [join, source_append, ih, List.flatMap_cons]

/-- Every text and every head has a property. -/
def All (onText : List Char → Prop) (onHead : Head → Prop) : Template → Prop
  | nil => True
  | text s rest => onText s ∧ rest.All onText onHead
  | element head inner rest =>
    onHead head ∧ inner.All onText onHead ∧ rest.All onText onHead

instance (onText : List Char → Prop) (onHead : Head → Prop) [DecidablePred onText]
    [DecidablePred onHead] : DecidablePred (All onText onHead) :=
  let rec decideAll : (t : Template) → Decidable (t.All onText onHead)
    | nil => isTrue trivial
    | text s rest =>
      have := decideAll rest
      inferInstanceAs (Decidable (onText s ∧ rest.All onText onHead))
    | element head inner rest =>
      have := decideAll inner
      have := decideAll rest
      inferInstanceAs (Decidable (onHead head ∧ inner.All onText onHead ∧ rest.All onText onHead))
  decideAll

variable {onText onText' : List Char → Prop} {onHead onHead' : Head → Prop}

theorem All.imp {t : Template} (h : t.All onText onHead) (ht : ∀ s, onText s → onText' s)
    (hh : ∀ head, onHead head → onHead' head) : t.All onText' onHead' := by
  induction t with
  | nil => trivial
  | text s rest ih => exact ⟨ht s h.1, ih h.2⟩
  | element head inner rest ihi ihr => exact ⟨hh head h.1, ihi h.2.1, ihr h.2.2⟩

theorem All.append {t u : Template} (ht : t.All onText onHead) (hu : u.All onText onHead) :
    (t.append u).All onText onHead := by
  induction t with
  | nil => exact hu
  | text s rest ih => exact ⟨ht.1, ih ht.2⟩
  | element head inner rest _ ih => exact ⟨ht.1, ht.2.1, ih ht.2.2⟩

theorem All.join {ts : List Template} (h : ∀ t ∈ ts, t.All onText onHead) :
    (join ts).All onText onHead := by
  induction ts with
  | nil => trivial
  | cons t ts ih =>
    exact (h t (List.mem_cons_self ..)).append (ih fun u hu => h u (List.mem_cons_of_mem _ hu))

/-- The tree can be read off its text: no text opens a tag, and every head can be read and has to be
closed. -/
def Readable : Template → Prop :=
  All (fun s => '<' ∉ s) fun head => head.Readable ∧ head.tag.isEmptyElement = false

instance (t : Template) : Decidable t.Readable :=
  inferInstanceAs (Decidable (t.All (fun s => '<' ∉ s) fun head =>
    head.Readable ∧ head.tag.isEmptyElement = false))

/-! ### Scanning -/

theorem source_element (head : Head) (s : List Char) :
    head.source ++ s =
      '<' :: (head.name ++ (head.attrs.flatMap QuotedAttr.source ++ '>' :: s)) := by
  simp [Head.source]

theorem closing_append (head : Head) (s : List Char) :
    head.closing ++ s = '<' :: '/' :: (head.name ++ '>' :: s) := by
  simp [Head.closing]

theorem segments_head {head : Head} (h : head.Readable) (s : List Char) :
    segments (head.source ++ s) = .openTag head.tag :: segments s := by
  rw [source_element, segments_markup (Head.readMarkup_source h s)]

theorem segments_closing {head : Head} (h : head.Readable) (s : List Char) :
    segments (head.closing ++ s) = .closeTag head.name head.closing :: segments s := by
  rw [closing_append, segments_markup (Head.readMarkup_closing h s)]

/-- Whether a tag is among the segments, as something read off them. -/
def tagFold (tag : OpenTag) : TextFold Prop where
  read l := .openTag tag ∈ l
  add _ p := p
  add_nil _ := rfl
  add_append _ _ _ := rfl
  read_text _ _ := by simp

/-- The tags of a tree are those of its heads. -/
theorem tag_of_mem_segments {t : Template} (ht : t.Readable) (hp : t.All onText onHead)
    {tag : OpenTag} {s : List Char} (h : .openTag tag ∈ segments (t.source ++ s)) :
    (∃ head, onHead head ∧ head.tag = tag) ∨ .openTag tag ∈ segments s := by
  induction t generalizing s with
  | nil => exact Or.inr h
  | text a rest ih =>
    rw [source, List.append_assoc] at h
    have hrest := ((tagFold tag).read_append (rest.source ++ s) ht.1).mp h
    exact ih ht.2 hp.2 hrest
  | element head inner rest ihi ihr =>
    rw [source, List.append_assoc, List.append_assoc, List.append_assoc,
      segments_head ht.1.1] at h
    rcases List.mem_cons.mp h with heq | h
    · exact Or.inl ⟨head, hp.1, (Segment.openTag.inj heq).symm⟩
    · rcases ihi ht.2.1 hp.2.1 h with hhead | h
      · exact Or.inl hhead
      · rw [segments_closing ht.1.1] at h
        rcases List.mem_cons.mp h with heq | h
        · simp at heq
        · exact ihr ht.2.2 hp.2.2 h

/-- The search for a closing tag passes a whole tree. -/
theorem closingIn_source {t : Template} (ht : t.Readable) (name : List Char) (depth : Nat)
    (s : List Char) :
    closingIn name depth (segments (t.source ++ s)) =
      (closingIn name depth (segments s)).map (Closing.behind t.source) := by
  induction t generalizing depth s with
  | nil => exact (Closing.map_behind_nil _).symm
  | text a rest ih =>
    rw [source, List.append_assoc, closingIn_append _ _ _ ht.1, ih ht.2,
      Closing.map_behind_map]
  | element head inner rest ihi ihr =>
    obtain ⟨⟨hhead, hfull⟩, hinner, hrest⟩ := ht
    rw [source, List.append_assoc, List.append_assoc, List.append_assoc, segments_head hhead,
      closingIn_cons depth rfl]
    have hsource : (Segment.openTag head.tag).source = head.source := head.source_tag
    by_cases hname : eqIgnoringCase head.name name = true
    · have hopens : (Segment.openTag head.tag).opens name = true := by
        simp [Segment.opens, Head.tag, hname] at hfull ⊢
        exact hfull
      have hcloses : (Segment.closeTag head.name head.closing).closing? name =
          some head.closing := by
        simp [Segment.closing?, hname]
      rw [if_pos hopens, ihi hinner, segments_closing hhead, closingIn_succ depth hcloses,
        ihr hrest, hsource, Segment.source]
      simp only [Closing.map_behind_map]
    · have hopens : ¬(Segment.openTag head.tag).opens name = true := by
        simp [Segment.opens, Head.tag, hname]
      have hcloses : (Segment.closeTag head.name head.closing).closing? name = none := by
        simp [Segment.closing?, hname]
      have hcloseOpens : ¬(Segment.closeTag head.name head.closing).opens name = true := by
        simp [Segment.opens]
      rw [if_neg hopens, ihi hinner, segments_closing hhead, closingIn_cons depth hcloses,
        if_neg hcloseOpens, ihr hrest, hsource, Segment.source]
      simp only [Closing.map_behind_map]

/-- The closing tag behind what an element holds is its own. -/
theorem closingIn_inner {head : Head} {inner : Template} (hhead : head.Readable)
    (hinner : inner.Readable) (s : List Char) :
    closingIn head.name 0 (segments (inner.source ++ (head.closing ++ s))) =
      some ⟨inner.source, head.closing, segments s⟩ := by
  have hcloses : (Segment.closeTag head.name head.closing).closing? head.name =
      some head.closing := by
    simp [Segment.closing?, eqIgnoringCase]
  rw [closingIn_source hinner, segments_closing hhead, closingIn_zero hcloses]
  simp [Closing.behind]

/-! ### Replacing in the tree -/

variable {α ε : Type}

/-- The outermost elements with a marked tag are replaced. -/
def replaced (mark? : OpenTag → Option α) (f : α → Head → Template → Template) :
    Template → Template
  | nil => nil
  | text s rest => text s (rest.replaced mark? f)
  | element head inner rest =>
    match mark? head.tag with
    | some mark => (f mark head inner).append (rest.replaced mark? f)
    | none => element head (inner.replaced mark? f) (rest.replaced mark? f)

theorem replaced_of_unmarked {mark? : OpenTag → Option α} (f : α → Head → Template → Template)
    {t : Template} (h : t.All onText fun head => mark? head.tag = none) :
    t.replaced mark? f = t := by
  induction t with
  | nil => rfl
  | text s rest ih => rw [replaced, ih h.2]
  | element head inner rest ihi ihr => rw [replaced, h.1, ihi h.2.1, ihr h.2.2]

/-- The outermost elements with a marked tag have a property. -/
def EachMarked (mark? : OpenTag → Option α) (P : α → Head → Template → Prop) : Template → Prop
  | nil => True
  | text _ rest => rest.EachMarked mark? P
  | element head inner rest =>
    match mark? head.tag with
    | some mark => P mark head inner ∧ rest.EachMarked mark? P
    | none => inner.EachMarked mark? P ∧ rest.EachMarked mark? P

theorem eachMarked_of_unmarked {mark? : OpenTag → Option α} {P : α → Head → Template → Prop}
    {t : Template} (h : t.All onText fun head => mark? head.tag = none) :
    t.EachMarked mark? P := by
  induction t with
  | nil => trivial
  | text s rest ih => exact ih h.2
  | element head inner rest ihi ihr =>
    rw [EachMarked, h.1]
    exact ⟨ihi h.2.1, ihr h.2.2⟩

/-- A closing tag in front stays as it is. -/
theorem apply_closing_append (r : Replacement α ε) {head : Head} (h : head.Readable)
    (s : List Char) :
    r.apply (head.closing ++ s) = (r.apply s).map (head.closing ++ ·) := by
  rw [r.apply_eq_run, segments_closing h, r.run_unmarked (by simp [Unmarked])]
  rfl

/-- A tree and what follows it are replaced by themselves. -/
theorem apply_append (r : Replacement α ε) {t : Template} (ht : t.Readable) (s : List Char) :
    r.apply (t.source ++ s) = (r.apply t.source).bind fun a => (r.apply s).map (a ++ ·) := by
  induction t generalizing s with
  | nil =>
    have hnil : r.apply [] = .ok [] := r.apply_of_notMem (by simp)
    rw [source, hnil]
    exact (map_nil_append _).symm
  | text a rest ih =>
    rw [source, List.append_assoc, r.apply_append _ ht.1, r.apply_append _ ht.1, ih ht.2]
    cases r.apply rest.source with
    | error f => rfl
    | ok b => exact map_append_map a b _
  | element head inner rest ihi ihr =>
    obtain ⟨⟨hhead, hfull⟩, hinner, hrest⟩ := ht
    have hhere : ∀ s, r.apply (head.source ++ s) = r.run (.openTag head.tag :: segments s) := by
      intro s
      rw [r.apply_eq_run, segments_head hhead]
    simp only [source, List.append_assoc]
    cases hmark : r.mark? head.tag with
    | some mark =>
      rw [hhere, hhere, r.run_element hmark hfull (closingIn_inner hhead hinner _),
        r.run_element hmark hfull (closingIn_inner hhead hinner _), ← r.apply_eq_run,
        ← r.apply_eq_run, ihr hrest]
      cases r.replace mark ⟨head.tag, inner.source, head.closing⟩ with
      | error f => rfl
      | ok text =>
        cases r.apply rest.source with
        | error f => rfl
        | ok b => exact map_append_map text b _
    | none =>
      have hunmarked := unmarked_openTag hmark
      rw [hhere, hhere, r.run_unmarked hunmarked, r.run_unmarked hunmarked, ← r.apply_eq_run,
        ← r.apply_eq_run, ihi hinner, ihi hinner (head.closing ++ rest.source),
        apply_closing_append r hhead, apply_closing_append r hhead, ihr hrest]
      cases r.apply inner.source with
      | error f => rfl
      | ok a =>
        cases r.apply rest.source with
        | error f => rfl
        | ok b => simp only [Except.bind, Except.map]; cases r.apply s <;> simp

/-- One marked element is replaced by what the rule says. -/
theorem apply_element_of_marked (r : Replacement α ε) {head : Head} {inner : Template} {mark : α}
    (ht : (element head inner nil).Readable) (hmark : r.mark? head.tag = some mark) :
    r.apply (element head inner nil).source =
      r.replace mark ⟨head.tag, inner.source, head.closing⟩ := by
  obtain ⟨⟨hhead, hfull⟩, hinner, -⟩ := ht
  rw [source, r.apply_eq_run, segments_head hhead,
    r.run_element hmark hfull (closingIn_inner hhead hinner _), source, segments_nil, r.run_nil]
  cases r.replace mark ⟨head.tag, inner.source, head.closing⟩ <;> simp [Except.bind, Except.map]

/-- An unmarked element stays around what it holds. -/
theorem apply_element_of_unmarked (r : Replacement α ε) {head : Head} {inner : Template}
    (ht : (element head inner nil).Readable) (hmark : r.mark? head.tag = none) :
    r.apply (element head inner nil).source =
      (r.apply inner.source).map fun s => head.source ++ (s ++ head.closing) := by
  obtain ⟨⟨hhead, -⟩, hinner, -⟩ := ht
  have hclosing : r.apply (head.closing ++ []) = .ok head.closing := by
    rw [apply_closing_append r hhead, r.apply_of_notMem (by simp)]
    simp [Except.map]
  rw [source, r.apply_eq_run, segments_head hhead, r.run_unmarked (unmarked_openTag hmark),
    ← r.apply_eq_run, apply_append r hinner, source, hclosing]
  cases r.apply inner.source with
  | error f => rfl
  | ok a => simp [Except.bind, Except.map, Segment.source, Head.source_tag]

/-- Replacing marked elements of the text is replacing them in the tree. -/
theorem apply_source (r : Replacement α ε) (f : α → Head → Template → Template) {t : Template}
    (ht : t.Readable)
    (hf : t.EachMarked r.mark? fun mark head inner =>
      r.replace mark ⟨head.tag, inner.source, head.closing⟩ = .ok (f mark head inner).source) :
    r.apply t.source = .ok (t.replaced r.mark? f).source := by
  induction t with
  | nil => exact r.apply_of_notMem (by simp [source])
  | text a rest ih =>
    rw [source, r.apply_append _ ht.1, ih ht.2 hf]
    rfl
  | element head inner rest ihi ihr =>
    obtain ⟨hhead, hinner, hrest⟩ := ht
    have hone : (element head inner nil).Readable := ⟨hhead, hinner, trivial⟩
    have hsource : (element head inner rest).source =
        (element head inner nil).source ++ rest.source := by
      simp [source]
    rw [hsource, apply_append r hone, replaced]
    cases hmark : r.mark? head.tag with
    | some mark =>
      simp only [EachMarked, hmark] at hf
      rw [apply_element_of_marked r hone hmark, hf.1, ihr hrest hf.2]
      simp [Except.bind, Except.map, source_append]
    | none =>
      simp only [EachMarked, hmark] at hf
      rw [apply_element_of_unmarked r hone hmark, ihi hinner hf.1, ihr hrest hf.2]
      simp [Except.bind, Except.map, source]

/-- One marked element is replaced by one text. -/
theorem apply_source_element (r : Replacement α ε) {head : Head} {inner : Template} {mark : α}
    {a : List Char} (ht : (element head inner nil).Readable) (hmark : r.mark? head.tag = some mark)
    (hr : r.replace mark ⟨head.tag, inner.source, head.closing⟩ = .ok a) :
    r.apply (element head inner nil).source = .ok a := by
  rw [apply_element_of_marked r ht hmark, hr]

theorem apply_source_of_unmarked (r : Replacement α ε) {t : Template} (ht : t.Readable)
    (h : t.All onText fun head => r.mark? head.tag = none) : r.apply t.source = .ok t.source := by
  have happly := apply_source r (fun _ _ _ => nil) ht (eachMarked_of_unmarked h)
  rwa [replaced_of_unmarked _ h] at happly

/-- The heads are exchanged and all else stays. -/
def mapHeads (f : Head → Head) : Template → Template
  | nil => nil
  | text s rest => text s (rest.mapHeads f)
  | element head inner rest => element (f head) (inner.mapHeads f) (rest.mapHeads f)

theorem replaceTags_source_append (edit : OpenTag → Except ε (List Char)) (f : Head → Head)
    (hname : ∀ head, (f head).name = head.name) {t : Template} (ht : t.Readable)
    (hf : t.All (fun _ => True) fun head => edit head.tag = .ok (f head).source) (s : List Char) :
    replaceTags edit (t.source ++ s) =
      (replaceTags edit s).map ((t.mapHeads f).source ++ ·) := by
  induction t generalizing s with
  | nil => exact (map_nil_append _).symm
  | text a rest ih =>
    rw [source, List.append_assoc, replaceTags_append _ _ ht.1, ih ht.2 hf.2, map_append_map]
    rfl
  | element head inner rest ihi ihr =>
    obtain ⟨⟨hhead, hfull⟩, hinner, hrest⟩ := ht
    have hname' : (f head).closing = head.closing := by rw [Head.closing, hname]; rfl
    have hclosing : ∀ s, replaceTags edit (head.closing ++ s) =
        (replaceTags edit s).map (head.closing ++ ·) := by
      intro s
      rw [closing_append, replaceTags_markup edit (Head.readMarkup_closing hhead _)]
      rfl
    simp only [source, List.append_assoc]
    rw [source_element, replaceTags_markup edit (Head.readMarkup_source hhead _), Segment.edited,
      hf.1, ihi hinner hf.2.1, hclosing, ihr hrest hf.2.2]
    simp only [Except.bind, map_append_map]
    simp only [mapHeads, source, hname', List.append_assoc]

/-- Editing the tags of the text is editing the heads of the tree. -/
theorem replaceTags_source (edit : OpenTag → Except ε (List Char)) (f : Head → Head)
    (hname : ∀ head, (f head).name = head.name) {t : Template} (ht : t.Readable)
    (hf : t.All (fun _ => True) fun head => edit head.tag = .ok (f head).source) :
    replaceTags edit t.source = .ok (t.mapHeads f).source := by
  have h := replaceTags_source_append edit f hname ht hf []
  have hnil : replaceTags edit [] = .ok [] := by
    simp [replaceTags_eq_concatM, segments_nil, concatM_nil]
  rw [List.append_nil, hnil] at h
  rw [h]
  simp [Except.map]

end Template

end Stencil
