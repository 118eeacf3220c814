import Stencil.Proofs.Output
import Stencil.Proofs.Settling

/-!
A pass over a well-formed template, seen on the tree: loops are written out, guarded elements are
kept or removed, and bindings are resolved. None of this changes what the template means, and after
it no directive is left, so that a second pass finds nothing to do.
-/
namespace Stencil

open Directive Engine Markup Render Text

/-- Resolving the bindings of a head leaves no directive, and its expressions can be evaluated
afterwards. -/
structure Engine.Resolvable (e : Engine) (scope : Scope) (head : Head) : Prop where
  wellformed : (e.bound scope head).Wellformed e.names
  plain : (e.bound scope head).Plain e.names
  resolved : e.resolved scope head = (e.bound scope head).mapValues (fill (e.textIn scope))

namespace Engine.Resolvable

variable {e : Engine} {head : Head}

theorem of_plain (hw : head.Wellformed e.names) (hp : head.Plain e.names) (scope : Scope) :
    e.Resolvable scope head := by
  have hbound := bound_of_plain hp scope
  refine ⟨by rwa [hbound], by rwa [hbound], ?_⟩
  rw [hbound, Engine.resolved, headOutput_of_plain hp]

theorem of_inert {scope : Scope} (hw : head.Wellformed e.names)
    (hi : ∀ p ∈ e.headInserts scope head, Inert p) : e.Resolvable scope head :=
  ⟨(bound_sound hw hi).1, (bound_sound hw hi).2, resolved_eq_mapValues hw hi⟩

end Engine.Resolvable

namespace Template

/-- Neither directives nor braces are left. -/
def Final (names : Names) : Template → Prop :=
  All (fun s => '<' ∉ s ∧ '\x7b' ∉ s) (Head.Final names)

/-- A well-formed tree without directives. -/
def Plain (names : Names) : Template → Prop :=
  All SoundText fun head => head.Wellformed names ∧ head.Plain names

/-- A well-formed tree without loops. -/
def Loopless (names : Names) : Template → Prop :=
  All SoundText fun head => head.Wellformed names ∧ names.loop? head.tag = none

/-- A well-formed tree with no directives but bindings, which can be resolved. -/
def Guardless (e : Engine) (scope : Scope) : Template → Prop :=
  All SoundText fun head =>
    head.Wellformed e.names ∧ e.names.loop? head.tag = none ∧ e.names.guard? head.tag = none ∧
      e.Resolvable scope head

variable {names : Names} {t : Template}

theorem Wellformed.readable (h : t.Wellformed names) : t.Readable :=
  h.imp (fun _ hs => hs.1) fun _ hh => ⟨hh.readable, hh.full⟩

theorem Final.plain (h : t.Final names) : t.Plain names :=
  h.imp (fun _ hs => ⟨hs.1, Spanned.of_notMem hs.2⟩) fun _ hh => ⟨hh.wellformed, hh.plain⟩

theorem Plain.loopless (h : t.Plain names) : t.Loopless names :=
  h.imp (fun _ hs => hs) fun _ hh => ⟨hh.1, hh.2.loop?⟩

theorem Plain.guardless {e : Engine} (h : t.Plain e.names) (scope : Scope) :
    t.Guardless e scope :=
  h.imp (fun _ hs => hs) fun _ hh =>
    ⟨hh.1, hh.2.loop?, hh.2.guard?, Resolvable.of_plain hh.1 hh.2 scope⟩

theorem Guardless.loopless {e : Engine} {scope : Scope} (h : t.Guardless e scope) :
    t.Loopless e.names :=
  h.imp (fun _ hs => hs) fun _ hh => ⟨hh.1, hh.2.1⟩

theorem Loopless.wellformed (h : t.Loopless names) : t.Wellformed names :=
  h.imp (fun _ hs => hs) fun _ hh => hh.1

/-! ### Trees in a row -/

theorem rendered_append (e : Engine) (t u : Template) (scope : Scope) :
    (t.append u).rendered e scope = (t.rendered e scope).append (u.rendered e scope) := by
  induction t with
  | nil => rfl
  | text s rest ih => simp only [append, rendered, ih]
  | element head inner rest _ ih => simp only [append, rendered, ih, append_assoc]

theorem inserts_append (e : Engine) (hidden : Bool) (t u : Template) (scope : Scope) :
    (t.append u).inserts e hidden scope =
      t.inserts e hidden scope ++ u.inserts e hidden scope := by
  induction t with
  | nil => rfl
  | text s rest ih => simp only [append, inserts, ih, List.append_assoc]
  | element head inner rest _ ih => simp only [append, inserts, ih, List.append_assoc]

theorem nesting_append (names : Names) (t u : Template) :
    (t.append u).nesting names = max (t.nesting names) (u.nesting names) := by
  induction t with
  | nil => simp [append, nesting]
  | text s rest ih => simp only [append, nesting, ih]
  | element head inner rest _ ih => simp only [append, nesting, ih, Nat.max_assoc]

/-! ### Final trees -/

theorem copies_of_plain {e : Engine} {head : Head} (h : head.Plain e.names) (scope : Scope) :
    e.copies scope head = [scope] := by
  simp [copies, shows, h.loop?, h.guard?]

/-- An element with one copy. -/
theorem written_of_copies {e : Engine} {scope turn : Scope} {head : Head}
    (inner : Scope → Template) (h : e.copies scope head = [turn]) :
    e.written scope head inner = element (e.resolved turn head) (inner turn) nil := by
  rw [written, h]
  rfl

variable {e : Engine}

/-- Rendering a final tree changes nothing. -/
theorem Final.rendered (h : t.Final e.names) (scope : Scope) : t.rendered e scope = t := by
  induction t with
  | nil => rfl
  | text s rest ih => rw [Template.rendered, fill_of_notMem _ h.1.2, ih h.2]
  | element head inner rest ihi ihr =>
    rw [Template.rendered, written_of_copies _ (copies_of_plain h.1.plain scope),
      h.1.resolved scope, ihi h.2.1, ihr h.2.2]
    rfl

theorem Final.inserts (h : t.Final e.names) (hidden : Bool) (scope : Scope) :
    t.inserts e hidden scope = [] := by
  induction t generalizing hidden with
  | nil => rfl
  | text s rest ih =>
    rw [Template.inserts, inserted_of_spanless _ (spanless_of_notMem h.1.2), ih h.2]
    simp
  | element head inner rest ihi ihr =>
    rw [Template.inserts, h.1.plain.loop?, h.1.headInserts, ihr h.2.2]
    simp [ihi h.2.1]

theorem Plain.nesting (h : t.Plain names) : t.nesting names = 0 := by
  induction t with
  | nil => rfl
  | text s rest ih => exact ih h.2
  | element head inner rest ihi ihr =>
    simp [Template.nesting, h.1.2.loop?, h.1.2.guard?, ihi h.2.1, ihr h.2.2]

/-! ### What is put in -/

/-- The copies of an element that is rendered get only what the element gets. -/
theorem inserts_of_copies {hidden : Bool} {head : Head} {inner rest : Template}
    {scope turn : Scope} (hturn : turn ∈ e.copies scope head)
    (hseen : hidden = false ∨ (e.names.loop? head.tag).isSome = true)
    {p : Place × List Char}
    (hp : p ∈ e.headInserts turn head ++ inner.inserts e false turn) :
    p ∈ (element head inner rest).inserts e hidden scope := by
  rw [inserts, List.mem_append]
  left
  cases hloop : e.names.loop? head.tag with
  | some header => exact List.mem_flatMap.mpr ⟨turn, hturn, hp⟩
  | none =>
    obtain rfl : hidden = false := by simpa [hloop] using hseen
    simp only [copies, hloop, List.mem_filter, List.mem_singleton] at hturn
    obtain ⟨rfl, hshows⟩ := hturn
    simpa [hshows] using hp

/-- Where no loop stands on the element, what it holds is seen or hidden. -/
theorem inserts_of_inner (hidden : Bool) {head : Head} {inner : Template} (rest : Template)
    {scope : Scope} (hloop : e.names.loop? head.tag = none) :
    ∃ hidden', ∀ p ∈ inner.inserts e hidden' scope,
      p ∈ (element head inner rest).inserts e hidden scope := by
  rw [inserts, hloop]
  by_cases hidden' : (hidden || !e.shows scope head) = true
  · refine ⟨true, fun p hp => ?_⟩
    rw [if_pos hidden']
    exact List.mem_append_left _ hp
  · refine ⟨false, fun p hp => ?_⟩
    rw [if_neg hidden']
    exact List.mem_append_left _ (List.mem_append_right _ hp)

theorem Harmless.rest_of_text {hidden : Bool} {scope : Scope} {s : List Char} {rest : Template}
    (h : (text s rest).Harmless e hidden scope) : rest.Harmless e hidden scope :=
  fun p hp => h p (List.mem_append_right _ hp)

theorem Harmless.rest_of_element {hidden : Bool} {scope : Scope} {head : Head}
    {inner rest : Template} (h : (element head inner rest).Harmless e hidden scope) :
    rest.Harmless e hidden scope :=
  fun p hp => h p (List.mem_append_right _ hp)

theorem Harmless.of_copies {hidden : Bool} {scope turn : Scope} {head : Head}
    {inner rest : Template} (h : (element head inner rest).Harmless e hidden scope)
    (hturn : turn ∈ e.copies scope head)
    (hseen : hidden = false ∨ (e.names.loop? head.tag).isSome = true) :
    (∀ p ∈ e.headInserts turn head, Inert p) ∧ inner.Harmless e false turn := by
  constructor
  · exact fun p hp => h p (inserts_of_copies hturn hseen (List.mem_append_left _ hp))
  · exact fun p hp => h p (inserts_of_copies hturn hseen (List.mem_append_right _ hp))

theorem Harmless.of_inner {hidden : Bool} {scope : Scope} {head : Head} {inner rest : Template}
    (h : (element head inner rest).Harmless e hidden scope)
    (hloop : e.names.loop? head.tag = none) : ∃ hidden', inner.Harmless e hidden' scope := by
  obtain ⟨hidden', hsub⟩ := inserts_of_inner hidden rest hloop
  exact ⟨hidden', fun p hp => h p (hsub p hp)⟩

/-- The copies of an element are final if what they hold is. -/
theorem written_final {scope : Scope} {head : Head} {inner : Scope → Template}
    (hhead : head.Wellformed e.names)
    (hin : ∀ turn ∈ e.copies scope head,
      (∀ p ∈ e.headInserts turn head, Inert p) ∧ (inner turn).Final e.names) :
    (e.written scope head inner).Final e.names := by
  refine All.join fun t ht => ?_
  obtain ⟨turn, hturn, rfl⟩ := List.mem_map.mp ht
  obtain ⟨hi, hfinal⟩ := hin turn hturn
  exact ⟨resolved_final hhead hi, hfinal, trivial⟩

/-- What rendering gives has neither directives nor braces. -/
theorem rendered_final {scope : Scope} (ht : t.Wellformed e.names) (hi : t.Harmless e false scope) :
    (t.rendered e scope).Final e.names := by
  induction t generalizing scope with
  | nil => trivial
  | text s rest ih =>
    have hvalue : ∀ v ∈ inserted (e.textIn scope) s, '<' ∉ v ∧ '\x7b' ∉ v := by
      intro v hv
      refine inert_text_iff.mp (hi _ (List.mem_append_left _ ?_))
      exact List.mem_map.mpr ⟨v, hv, rfl⟩
    refine ⟨⟨?_, ?_⟩, ih ht.2 hi.rest_of_text⟩
    · exact notMem_fill _ ht.1.1 fun v hv => (hvalue v hv).1
    · exact Spanned.notMem_fill _ ht.1.2 fun v hv => (hvalue v hv).2
  | element head inner rest ihi ihr =>
    refine All.append (written_final ht.1 fun turn hturn => ?_) (ihr ht.2.2 hi.rest_of_element)
    obtain ⟨hhead, hinner⟩ := hi.of_copies hturn (Or.inl rfl)
    exact ⟨hhead, ihi ht.2.1 hinner⟩

/-! ### Loops -/

/-- The tree with its outermost loops written out. -/
def expanded (e : Engine) (scope : Scope) : Template → Template :=
  replaced e.names.loop? fun _ head inner => e.written scope head fun turn => inner.rendered e turn

variable {scope : Scope} {head : Head} {inner rest : Template}

theorem expanded_text (s : List Char) :
    (text s rest).expanded e scope = text s (rest.expanded e scope) := rfl

theorem expanded_of_loop {header : LoopHeader} (h : e.names.loop? head.tag = some header) :
    (element head inner rest).expanded e scope =
      (e.written scope head fun turn => inner.rendered e turn).append
        (rest.expanded e scope) := by
  rw [expanded, replaced, h]

theorem expanded_of_loopless (h : e.names.loop? head.tag = none) :
    (element head inner rest).expanded e scope =
      element head (inner.expanded e scope) (rest.expanded e scope) := by
  rw [expanded, replaced, h]

theorem loop_final {hidden : Bool} {header : LoopHeader}
    (ht : (element head inner rest).Wellformed e.names)
    (hi : (element head inner rest).Harmless e hidden scope)
    (hloop : e.names.loop? head.tag = some header) :
    (e.written scope head fun turn => inner.rendered e turn).Final e.names := by
  refine written_final ht.1 fun turn hturn => ?_
  obtain ⟨hhead, hinner⟩ := hi.of_copies hturn (Or.inr (by rw [hloop]; rfl))
  exact ⟨hhead, rendered_final ht.2.1 hinner⟩

theorem expanded_loopless {hidden : Bool} (ht : t.Wellformed e.names)
    (hi : t.Harmless e hidden scope) : (t.expanded e scope).Loopless e.names := by
  induction t generalizing hidden with
  | nil => trivial
  | text s rest ih => exact ⟨ht.1, ih ht.2 hi.rest_of_text⟩
  | element head inner rest ihi ihr =>
    have hrest := ihr ht.2.2 hi.rest_of_element
    cases hloop : e.names.loop? head.tag with
    | some header =>
      rw [expanded_of_loop hloop]
      exact (loop_final ht hi hloop).plain.loopless.append hrest
    | none =>
      rw [expanded_of_loopless hloop]
      obtain ⟨hidden', hinner⟩ := hi.of_inner hloop
      exact ⟨⟨ht.1, hloop⟩, ihi ht.2.1 hinner, hrest⟩

theorem nesting_expanded_le {hidden : Bool} (ht : t.Wellformed e.names)
    (hi : t.Harmless e hidden scope) :
    (t.expanded e scope).nesting e.names ≤ t.nesting e.names := by
  induction t generalizing hidden with
  | nil => exact Nat.le_refl _
  | text s rest ih => exact ih ht.2 hi.rest_of_text
  | element head inner rest ihi ihr =>
    have hrest := ihr ht.2.2 hi.rest_of_element
    cases hloop : e.names.loop? head.tag with
    | some header =>
      have hfinal := loop_final ht hi hloop
      rw [expanded_of_loop hloop, nesting_append, hfinal.plain.nesting, nesting]
      omega
    | none =>
      obtain ⟨hidden', hinner⟩ := hi.of_inner hloop
      have hle := ihi ht.2.1 hinner
      rw [expanded_of_loopless hloop, nesting, nesting]
      omega

private theorem append_subset_append {α : Type} {a b c d : List α} (hac : a ⊆ c) (hbd : b ⊆ d) :
    a ++ b ⊆ c ++ d :=
  List.append_subset.mpr
    ⟨List.subset_append_of_subset_left d hac, List.subset_append_of_subset_right c hbd⟩

/-- Writing out loops leaves nothing to put in that was not there before. -/
theorem inserts_expanded_subset {hidden : Bool} (ht : t.Wellformed e.names)
    (hi : t.Harmless e hidden scope) :
    (t.expanded e scope).inserts e hidden scope ⊆ t.inserts e hidden scope := by
  induction t generalizing hidden with
  | nil => exact List.Subset.refl _
  | text s rest ih =>
    exact append_subset_append (List.Subset.refl _) (ih ht.2 hi.rest_of_text)
  | element head inner rest ihi ihr =>
    have hrest := ihr ht.2.2 hi.rest_of_element
    cases hloop : e.names.loop? head.tag with
    | some header =>
      rw [expanded_of_loop hloop, inserts_append, (loop_final ht hi hloop).inserts, inserts]
      exact List.subset_append_of_subset_right _ hrest
    | none =>
      rw [expanded_of_loopless hloop, inserts, inserts, hloop]
      refine append_subset_append ?_ hrest
      rw [Harmless, inserts, hloop] at hi
      by_cases hunseen : (hidden || !e.shows scope head) = true
      · simp only [if_pos hunseen] at hi ⊢
        exact ihi ht.2.1 fun p hp => hi p (List.mem_append_left _ hp)
      · simp only [if_neg hunseen] at hi ⊢
        refine append_subset_append (List.Subset.refl _) (ihi ht.2.1 fun p hp => ?_)
        exact hi p (List.mem_append_left _ (List.mem_append_right _ hp))

/-- Writing out loops keeps the meaning. -/
theorem rendered_expanded (ht : t.Wellformed e.names) (hi : t.Harmless e false scope) :
    (t.expanded e scope).rendered e scope = t.rendered e scope := by
  induction t with
  | nil => rfl
  | text s rest ih => rw [expanded_text, rendered, rendered, ih ht.2 hi.rest_of_text]
  | element head inner rest ihi ihr =>
    have hrest := ihr ht.2.2 hi.rest_of_element
    cases hloop : e.names.loop? head.tag with
    | some header =>
      rw [expanded_of_loop hloop, rendered_append, hrest, (loop_final ht hi hloop).rendered,
        rendered]
    | none =>
      rw [expanded_of_loopless hloop, rendered, rendered, hrest]
      -- A failing guard removes the element, whatever it holds.
      by_cases hshows : e.shows scope head = true
      · have hturn : e.copies scope head = [scope] := by simp [copies, hloop, hshows]
        have hcopy : scope ∈ e.copies scope head := by simp [hturn]
        obtain ⟨-, hinner⟩ := hi.of_copies hcopy (Or.inl rfl)
        rw [written_of_copies _ hturn, written_of_copies _ hturn, ihi ht.2.1 hinner]
      · have hturn : e.copies scope head = [] := by simp [copies, hloop, hshows]
        simp [written, hturn]

/-! ### Guards -/

/-- What becomes of an element with a guard, except for the expressions on its tag. -/
def kept (e : Engine) (scope : Scope) (head : Head) (inner : Template) : Template :=
  if e.shows scope head then element (e.bound scope head) (inner.rendered e scope) nil else nil

/-- The tree with its outermost guarded elements kept or removed. -/
def pruned (e : Engine) (scope : Scope) : Template → Template :=
  replaced e.names.guard? fun _ head inner => kept e scope head inner

theorem pruned_text (s : List Char) :
    (text s rest).pruned e scope = text s (rest.pruned e scope) := rfl

theorem pruned_of_guard {guard : List Char} (h : e.names.guard? head.tag = some guard) :
    (element head inner rest).pruned e scope =
      (kept e scope head inner).append (rest.pruned e scope) := by
  rw [pruned, replaced, h]

theorem pruned_of_guardless (h : e.names.guard? head.tag = none) :
    (element head inner rest).pruned e scope =
      element head (inner.pruned e scope) (rest.pruned e scope) := by
  rw [pruned, replaced, h]

/-- An element that is kept is plain, and its meaning is that of the element with its guard. -/
theorem kept_sound (ht : (element head inner rest).Wellformed e.names)
    (hi : (element head inner rest).Harmless e false scope)
    (hloop : e.names.loop? head.tag = none) :
    (kept e scope head inner).Plain e.names ∧
      (kept e scope head inner).rendered e scope =
        e.written scope head fun turn => inner.rendered e turn := by
  rw [kept]
  by_cases hshows : e.shows scope head = true
  · have hturn : e.copies scope head = [scope] := by simp [copies, hloop, hshows]
    have hcopy : scope ∈ e.copies scope head := by simp [hturn]
    obtain ⟨hhead, hinner⟩ := hi.of_copies hcopy (Or.inl rfl)
    have hres := Resolvable.of_inert ht.1 hhead
    have hfinal := rendered_final ht.2.1 hinner
    rw [if_pos hshows]
    refine ⟨⟨⟨hres.wellformed, hres.plain⟩, hfinal.plain, trivial⟩, ?_⟩
    rw [rendered, written_of_copies _ (copies_of_plain hres.plain scope),
      written_of_copies _ hturn, hfinal.rendered, hres.resolved, Engine.resolved,
      headOutput_of_plain hres.plain]
    rfl
  · have hturn : e.copies scope head = [] := by simp [copies, hloop, hshows]
    rw [if_neg hshows]
    exact ⟨trivial, by rw [rendered, written, hturn]; rfl⟩

theorem pruned_guardless (ht : t.Loopless e.names) (hi : t.Harmless e false scope) :
    (t.pruned e scope).Guardless e scope := by
  induction t with
  | nil => trivial
  | text s rest ih => exact ⟨ht.1, ih ht.2 hi.rest_of_text⟩
  | element head inner rest ihi ihr =>
    have hrest := ihr ht.2.2 hi.rest_of_element
    have hloop := ht.1.2
    cases hguard : e.names.guard? head.tag with
    | some guard =>
      rw [pruned_of_guard hguard]
      exact ((kept_sound ht.wellformed hi hloop).1.guardless scope).append hrest
    | none =>
      have hturn : e.copies scope head = [scope] := by simp [copies, hloop, shows, hguard]
      have hcopy : scope ∈ e.copies scope head := by simp [hturn]
      obtain ⟨hhead, hinner⟩ := hi.of_copies hcopy (Or.inl rfl)
      rw [pruned_of_guardless hguard]
      exact ⟨⟨ht.1.1, hloop, hguard, Resolvable.of_inert ht.1.1 hhead⟩, ihi ht.2.1 hinner, hrest⟩

/-- Deciding about guards keeps the meaning. -/
theorem rendered_pruned (ht : t.Loopless e.names) (hi : t.Harmless e false scope) :
    (t.pruned e scope).rendered e scope = t.rendered e scope := by
  induction t with
  | nil => rfl
  | text s rest ih => rw [pruned_text, rendered, rendered, ih ht.2 hi.rest_of_text]
  | element head inner rest ihi ihr =>
    have hrest := ihr ht.2.2 hi.rest_of_element
    have hloop := ht.1.2
    cases hguard : e.names.guard? head.tag with
    | some guard =>
      rw [pruned_of_guard hguard, rendered_append, hrest, (kept_sound ht.wellformed hi hloop).2,
        rendered]
    | none =>
      have hturn : e.copies scope head = [scope] := by simp [copies, hloop, shows, hguard]
      have hcopy : scope ∈ e.copies scope head := by simp [hturn]
      obtain ⟨-, hinner⟩ := hi.of_copies hcopy (Or.inl rfl)
      rw [pruned_of_guardless hguard, rendered, rendered, hrest, written_of_copies _ hturn,
        written_of_copies _ hturn, ihi ht.2.1 hinner]

/-! ### Bindings and expressions -/

/-- The tree with its bindings resolved. -/
def settled (e : Engine) (scope : Scope) : Template → Template := mapHeads (e.bound scope)

/-- The tree with its expressions evaluated. -/
def filled (value : List Char → List Char) : Template → Template
  | nil => nil
  | text s rest => text (fill value s) (rest.filled value)
  | element head inner rest =>
    element (head.mapValues (fill value)) (inner.filled value) (rest.filled value)

theorem settled_plain (ht : t.Guardless e scope) : (t.settled e scope).Plain e.names := by
  induction t with
  | nil => trivial
  | text s rest ih => exact ⟨ht.1, ih ht.2⟩
  | element head inner rest ihi ihr =>
    obtain ⟨⟨-, -, -, hres⟩, hinner, hrest⟩ := ht
    exact ⟨⟨hres.wellformed, hres.plain⟩, ihi hinner, ihr hrest⟩

theorem settled_of_plain (ht : t.Plain e.names) : t.settled e scope = t := by
  induction t with
  | nil => rfl
  | text s rest ih =>
    have hrest := ih ht.2
    rw [settled] at hrest ⊢
    rw [mapHeads, hrest]
  | element head inner rest ihi ihr =>
    have hinner := ihi ht.2.1
    have hrest := ihr ht.2.2
    rw [settled] at hinner hrest ⊢
    rw [mapHeads, bound_of_plain ht.1.2, hinner, hrest]

/-- Where only bindings are left, the meaning is to resolve them and to evaluate the expressions. -/
theorem rendered_of_guardless (ht : t.Guardless e scope) :
    t.rendered e scope = (t.settled e scope).filled (e.textIn scope) := by
  induction t with
  | nil => rfl
  | text s rest ih => rw [rendered, ih ht.2]; rfl
  | element head inner rest ihi ihr =>
    obtain ⟨⟨-, hloop, hguard, hres⟩, hinner, hrest⟩ := ht
    have hturn : e.copies scope head = [scope] := by simp [copies, hloop, shows, hguard]
    rw [rendered, written_of_copies _ hturn, ihi hinner, ihr hrest, hres.resolved]
    rfl

/-- The text of a plain tree is filled in piece by piece. -/
theorem fill_source (ht : t.Plain names) (value : List Char → List Char) :
    Spanned t.source ∧ fill value t.source = (t.filled value).source := by
  induction t with
  | nil => exact ⟨.nil, fill_of_notMem value (by simp [source])⟩
  | text s rest ih =>
    obtain ⟨hspanned, hfill⟩ := ih ht.2
    rw [source, fill_append value ht.1.2, hfill]
    exact ⟨ht.1.2.append hspanned, rfl⟩
  | element head inner rest ihi ihr =>
    obtain ⟨hhead, hfillHead⟩ := ht.1.1.fill_source ht.1.2 value
    obtain ⟨hinner, hfillInner⟩ := ihi ht.2.1
    obtain ⟨hrest, hfillRest⟩ := ihr ht.2.2
    have hclosing := Head.notMem_brace_closing ht.1.1.readable
    rw [source, fill_append value hhead, fill_append value hinner,
      fill_append value (Spanned.of_notMem hclosing), fill_of_notMem value hclosing, hfillHead,
      hfillInner, hfillRest]
    exact ⟨hhead.append (hinner.append ((Spanned.of_notMem hclosing).append hrest)), rfl⟩

end Template

end Stencil
