import Mathlib.Data.List.Basic
import Stencil.Proofs.Pairing

/-!
What the replacement of elements replaces and what it leaves. A target is outermost if it stands in
the element of no outermost target in front of it. The replacement walks over the segments of a text
and takes the element of each target that it meets as a whole; it meets the outermost targets and no
others, so that every target is in exactly one of the elements and the text between them stays.
-/
namespace Stencil.Markup

open Text

/-- The text of an element, from its opening tag to the end of its closing tag. -/
def Element.source (e : Element) : List Char := e.tag.source ++ e.inner ++ e.closing

/-- The element of a target among segments. It takes those from `start` on and in front of `stop`.
-/
structure Occurrence (α : Type) where
  start : Nat
  stop : Nat
  mark : α
  element : Element

/-- Whether an opening tag at a place among segments is a target. -/
def IsTarget {α : Type} (mark? : OpenTag → Option α) (l : List Segment) (i : Nat) : Prop :=
  ∃ t mark, l[i]? = some (.openTag t) ∧ mark? t = some mark

/-- The element of the target at a place, if there is one and it is closed. -/
def occurrenceAt? {α : Type} (mark? : OpenTag → Option α) (l : List Segment) (i : Nat) :
    Option (Occurrence α) :=
  match l[i]? with
  | some (.openTag t) =>
    (mark? t).bind fun mark =>
      if t.isEmptyElement then some ⟨i, i + 1, mark, ⟨t, [], []⟩⟩
      else
        (pair? t.name (l.drop (i + 1))).map fun p =>
          ⟨i, i + p.inner.length + 2, mark, ⟨t, sources p.inner, p.closing⟩⟩
  | _ => none

/-- Whether a place holds a target that is in the element of no outermost target in front of it.
Elements of different names can overlap, so the other targets in front of it do not count. -/
def Outermost {α : Type} (mark? : OpenTag → Option α) (l : List Segment) (i : Nat) : Prop :=
  IsTarget mark? l i ∧ ∀ j, j < i → Outermost mark? l j →
    ∀ o, occurrenceAt? mark? l j = some o → o.stop ≤ i
termination_by i

/-- Whether a place is in the element of no outermost target in front of it. -/
def Clear {α : Type} (mark? : OpenTag → Option α) (l : List Segment) (i : Nat) : Prop :=
  ∀ j, j < i → Outermost mark? l j → ∀ o, occurrenceAt? mark? l j = some o → o.stop ≤ i

/-- Whether the closing tag at `k` is the one that is paired with an opening tag of this name at
`i`: whatever elements of the name are opened between the two tags are closed there, and nothing
else is. -/
def Paired (name : List Char) (l : List Segment) (i k : Nat) : Prop :=
  i < k ∧ (∃ close source, l[k]? = some close ∧ close.closing? name = some source) ∧
    depthAfter name 0 ((l.drop (i + 1)).take (k - (i + 1))) = some 0

/-- Whether an element goes from its opening tag to the closing tag that is paired with it, and an
empty element no further than its tag. -/
def Occurrence.Spans {α : Type} (l : List Segment) (o : Occurrence α) : Prop :=
  l[o.start]? = some (.openTag o.element.tag) ∧
    if o.element.tag.isEmptyElement then o.stop = o.start + 1
    else ∃ k, o.stop = k + 1 ∧ Paired o.element.tag.name l o.start k

/-- Whether this is the element of an outermost target. -/
def Occurrence.IsOutermost {α : Type} (mark? : OpenTag → Option α) (l : List Segment)
    (o : Occurrence α) : Prop :=
  Outermost mark? l o.start ∧ occurrenceAt? mark? l o.start = some o

variable {α ε : Type} {mark? : OpenTag → Option α} {l : List Segment} {i n : Nat}
  {o : Occurrence α} {found : List (Occurrence α)}

theorem outermost_iff : Outermost mark? l i ↔ IsTarget mark? l i ∧ Clear mark? l i := by
  rw [Outermost]
  rfl

/-! ### The element at a place -/

theorem drop_of_getElem? {segment : Segment} (h : l[i]? = some segment) :
    l.drop i = segment :: l.drop (i + 1) := by
  obtain ⟨hi, rfl⟩ := List.getElem?_eq_some_iff.mp h
  exact List.drop_eq_getElem_cons hi

theorem occurrenceAt?_eq_some (h : occurrenceAt? mark? l i = some o) :
    ∃ t, l[i]? = some (.openTag t) ∧ mark? t = some o.mark ∧ o.start = i ∧
      (t.isEmptyElement = true ∧ o.stop = i + 1 ∧ o.element = ⟨t, [], []⟩ ∨
        t.isEmptyElement = false ∧ ∃ p, pair? t.name (l.drop (i + 1)) = some p ∧
          o.stop = i + p.inner.length + 2 ∧ o.element = ⟨t, sources p.inner, p.closing⟩) := by
  unfold occurrenceAt? at h
  split at h
  · next t ht =>
    obtain ⟨mark, hmark, ho⟩ := Option.bind_eq_some_iff.mp h
    refine ⟨t, ht, ?_⟩
    split at ho
    · next hempty =>
      obtain rfl := Option.some.inj ho
      exact ⟨hmark, rfl, Or.inl ⟨hempty, rfl, rfl⟩⟩
    · next hempty =>
      obtain ⟨p, hp, rfl⟩ := Option.map_eq_some_iff.mp ho
      exact ⟨hmark, rfl, Or.inr ⟨Bool.eq_false_iff.mpr hempty, p, hp, rfl, rfl⟩⟩
  · simp at h

theorem start_eq_of_occurrenceAt? (h : occurrenceAt? mark? l i = some o) : o.start = i := by
  obtain ⟨t, -, -, hstart, -⟩ := occurrenceAt?_eq_some h
  exact hstart

theorem isTarget_of_occurrenceAt? (h : occurrenceAt? mark? l i = some o) :
    IsTarget mark? l i := by
  obtain ⟨t, ht, hmark, -⟩ := occurrenceAt?_eq_some h
  exact ⟨t, o.mark, ht, hmark⟩

theorem rest_eq_drop_of_pair? {name : List Char} {p : Pairing}
    (h : pair? name (l.drop (i + 1)) = some p) : p.rest = l.drop (i + p.inner.length + 2) := by
  obtain ⟨close, hsplit, -⟩ := exists_split_of_pair? h
  have hplaces : i + p.inner.length + 2 = i + 1 + (p.inner ++ [close]).length := by
    rw [List.length_append, List.length_singleton]
    omega
  have hbehind : l.drop (i + 1) = (p.inner ++ [close]) ++ p.rest := by
    rw [hsplit, List.append_assoc, List.singleton_append]
  rw [hplaces, ← List.drop_drop, hbehind, List.drop_left]

/-- What is found is the paired closing tag. -/
theorem paired_of_pair? {name : List Char} {p : Pairing}
    (h : pair? name (l.drop (i + 1)) = some p) : Paired name l i (i + p.inner.length + 1) := by
  obtain ⟨close, hsplit, hclose, hdepth⟩ := exists_split_of_pairFrom h
  have hplace : i + p.inner.length + 1 - (i + 1) = p.inner.length := by omega
  refine ⟨by omega, ⟨close, p.closing, ?_, hclose⟩, ?_⟩
  · have hk : i + p.inner.length + 1 = i + 1 + p.inner.length := by omega
    rw [hk, ← List.getElem?_drop, hsplit]
    simp
  · rw [hsplit, hplace, List.take_left]
    exact hdepth

/-- The paired closing tag is found. -/
theorem Paired.pair?_ne_none {name : List Char} {k : Nat} (h : Paired name l i k) :
    pair? name (l.drop (i + 1)) ≠ none := by
  obtain ⟨hlt, ⟨close, source, hk, hclose⟩, hdepth⟩ := h
  have hclosing := closingIn_of_depthAfter hdepth hclose (l.drop (k + 1))
  have hsplit : (l.drop (i + 1)).take (k - (i + 1)) ++ close :: l.drop (k + 1) =
      l.drop (i + 1) := by
    have hplace : i + 1 + (k - (i + 1)) = k := by omega
    have hbehind : l.drop k = (l.drop (i + 1)).drop (k - (i + 1)) := by
      rw [List.drop_drop, hplace]
    rw [← drop_of_getElem? hk, hbehind, List.take_append_drop]
  rw [hsplit] at hclosing
  intro hnone
  have hnothing : closingIn name 0 (l.drop (i + 1)) = none := Option.map_eq_none_iff.mpr hnone
  rw [hnothing] at hclosing
  cases hclosing

theorem spans_of_occurrenceAt? (h : occurrenceAt? mark? l i = some o) : o.Spans l := by
  obtain ⟨t, ht, -, rfl, ⟨hempty, hstop, helement⟩ | ⟨hempty, p, hp, hstop, helement⟩⟩ :=
    occurrenceAt?_eq_some h
  · rw [Occurrence.Spans, helement, if_pos hempty]
    exact ⟨ht, hstop⟩
  · rw [Occurrence.Spans, helement, if_neg (Bool.eq_false_iff.mp hempty)]
    exact ⟨ht, _, hstop, paired_of_pair? hp⟩

/-- The element of a target is a stretch of segments with the target in front. -/
theorem exists_stretch (h : occurrenceAt? mark? l i = some o) :
    ∃ stretch, l.drop i = stretch ++ l.drop o.stop ∧ o.stop = i + stretch.length ∧
      stretch ≠ [] ∧ sources stretch = o.element.source := by
  obtain ⟨t, ht, -, -, ⟨-, hstop, helement⟩ | ⟨-, p, hp, hstop, helement⟩⟩ :=
    occurrenceAt?_eq_some h
  · refine ⟨[.openTag t], ?_, hstop, List.cons_ne_nil _ _, ?_⟩
    · rw [hstop]
      exact drop_of_getElem? ht
    · rw [helement, Element.source, List.append_nil, List.append_nil, sources_cons]
      exact List.append_nil _
  · obtain ⟨close, hsplit, hclose⟩ := exists_split_of_pair? hp
    refine ⟨.openTag t :: (p.inner ++ [close]), ?_, ?_, List.cons_ne_nil _ _, ?_⟩
    · rw [drop_of_getElem? ht, hsplit, List.append_cons, rest_eq_drop_of_pair? hp, hstop]
      rfl
    · rw [hstop, List.length_cons, List.length_append, List.length_singleton]
      omega
    · have hclosing : sources [close] = p.closing := by
        rw [← source_eq_of_closing? hclose]
        exact List.append_nil _
      rw [helement, Element.source, sources_cons, sources_append, hclosing, ← List.append_assoc]
      rfl

theorem lt_stop_of_occurrenceAt? (h : occurrenceAt? mark? l i = some o) : i < o.stop := by
  obtain ⟨stretch, -, hstop, hne, -⟩ := exists_stretch h
  have hpos := List.length_pos_iff.mpr hne
  omega

/-- A target has an element if it is closed where it has to be. -/
theorem exists_occurrenceAt? (h : IsTarget mark? l i)
    (hclosed : ∀ t, l[i]? = some (.openTag t) → t.isEmptyElement = false →
      pair? t.name (l.drop (i + 1)) ≠ none) :
    ∃ o, occurrenceAt? mark? l i = some o := by
  obtain ⟨t, mark, ht, hmark⟩ := h
  unfold occurrenceAt?
  simp only [ht, hmark, Option.bind_some]
  cases hempty : t.isEmptyElement with
  | true => exact ⟨_, rfl⟩
  | false =>
    obtain ⟨p, hp⟩ := Option.ne_none_iff_exists'.mp (hclosed t ht hempty)
    rw [hp]
    exact ⟨_, rfl⟩

/-! ### Places in no outermost element -/

theorem clear_zero : Clear mark? l 0 := fun j hj => absurd hj (Nat.not_lt_zero j)

theorem exists_of_not_clear (h : ¬Clear mark? l i) :
    ∃ o : Occurrence α, o.IsOutermost mark? l ∧ o.start < i ∧ i < o.stop := by
  unfold Clear at h
  simp only [Classical.not_forall, Nat.not_le] at h
  obtain ⟨j, hj, hout, o, ho, hinside⟩ := h
  obtain rfl := start_eq_of_occurrenceAt? ho
  exact ⟨o, ⟨hout, ho⟩, hj, hinside⟩

theorem Clear.succ (hclear : Clear mark? l n) (h : ¬IsTarget mark? l n) :
    Clear mark? l (n + 1) := by
  intro j hj hout o ho
  have hne : j ≠ n := by
    rintro rfl
    exact h (outermost_iff.mp hout).1
  have hstop := hclear j (by omega) hout o ho
  omega

/-- Behind the element of a target that is in no outermost element there is none either. -/
theorem Clear.stop (hclear : Clear mark? l n) (h : occurrenceAt? mark? l n = some o) :
    Clear mark? l o.stop := by
  intro j hj hout o' ho'
  rcases Nat.lt_trichotomy j n with hlt | rfl | hgt
  · have hstop := hclear j hlt hout o' ho'
    have hn := lt_stop_of_occurrenceAt? h
    omega
  · obtain rfl := Option.some.inj (h.symm.trans ho')
    exact Nat.le_refl _
  · have hn : Outermost mark? l n := outermost_iff.mpr ⟨isTarget_of_occurrenceAt? h, hclear⟩
    have hle := (outermost_iff.mp hout).2 n hgt hn o h
    omega

/-- Where no element of a target reaches out of the one around it, the outermost targets are those
that are in no other element of a target. -/
theorem outermost_iff_of_nested
    (hnested : ∀ j k o o', occurrenceAt? mark? l j = some o →
      occurrenceAt? mark? l k = some o' → j < k → k < o.stop → o'.stop ≤ o.stop) :
    Outermost mark? l i ↔ IsTarget mark? l i ∧
      ∀ k, k < i → ∀ o, occurrenceAt? mark? l k = some o → o.stop ≤ i := by
  rw [outermost_iff]
  constructor
  · rintro ⟨htarget, hclear⟩
    refine ⟨htarget, fun k hk o' ho' => ?_⟩
    by_cases hout : Outermost mark? l k
    · exact hclear k hk hout o' ho'
    · -- the element around the target at `k` ends in front of `i`, and so does that target's own
      have hk' : ¬Clear mark? l k := fun h =>
        hout (outermost_iff.mpr ⟨isTarget_of_occurrenceAt? ho', h⟩)
      obtain ⟨o, ho, hj, hinside⟩ := exists_of_not_clear hk'
      have hstop := hclear o.start (Nat.lt_trans hj hk) ho.1 o ho.2
      have hle := hnested o.start k o o' ho.2 ho' hj hinside
      omega
  · rintro ⟨htarget, h⟩
    exact ⟨htarget, fun j hj _ => h j hj⟩

/-- No two outermost elements share a segment. -/
theorem Occurrence.IsOutermost.unique {a b : Occurrence α} (ha : a.IsOutermost mark? l)
    (hb : b.IsOutermost mark? l) (hai : a.start ≤ i ∧ i < a.stop)
    (hbi : b.start ≤ i ∧ i < b.stop) : a = b := by
  rcases Nat.lt_trichotomy a.start b.start with hlt | heq | hgt
  · have hle := (outermost_iff.mp hb.1).2 a.start hlt ha.1 a ha.2
    omega
  · have hsame := ha.2
    rw [heq] at hsame
    exact Option.some.inj (hsame.symm.trans hb.2)
  · have hle := (outermost_iff.mp ha.1).2 b.start hgt hb.1 b hb.2
    omega

/-- Every target is in exactly one outermost element. -/
theorem existsUnique_outermost (h : IsTarget mark? l i)
    (hclosed : ∀ j, Outermost mark? l j → ∃ o, occurrenceAt? mark? l j = some o) :
    ∃! o : Occurrence α, o.IsOutermost mark? l ∧ o.start ≤ i ∧ i < o.stop := by
  have hexists : ∃ o : Occurrence α, o.IsOutermost mark? l ∧ o.start ≤ i ∧ i < o.stop := by
    by_cases hclear : Clear mark? l i
    · have hout := outermost_iff.mpr ⟨h, hclear⟩
      obtain ⟨o, ho⟩ := hclosed i hout
      have hlt := lt_stop_of_occurrenceAt? ho
      obtain rfl := start_eq_of_occurrenceAt? ho
      exact ⟨o, ⟨hout, ho⟩, Nat.le_refl _, hlt⟩
    · obtain ⟨o, ho, hlt, hinside⟩ := exists_of_not_clear hclear
      exact ⟨o, ho, Nat.le_of_lt hlt, hinside⟩
  obtain ⟨o, ho, hinside⟩ := hexists
  exact ⟨o, ⟨ho, hinside⟩, fun o' ho' => ho'.1.unique ho ho'.2 hinside⟩

/-! ### Walking over segments -/

/-- A walk over segments from a place on, with the elements of the targets that it meets. -/
inductive Walk (mark? : OpenTag → Option α) (l : List Segment) :
    Nat → List (Occurrence α) → Prop where
  | done {n : Nat} (hn : l.length ≤ n) : Walk mark? l n []
  | pass {n : Nat} {found : List (Occurrence α)} (hn : n < l.length)
      (htarget : ¬IsTarget mark? l n) (hrest : Walk mark? l (n + 1) found) : Walk mark? l n found
  | take {n : Nat} {o : Occurrence α} {found : List (Occurrence α)}
      (ho : occurrenceAt? mark? l n = some o) (hrest : Walk mark? l o.stop found) :
      Walk mark? l n (o :: found)

theorem exists_walk (hclosed : ∀ j, Outermost mark? l j → ∃ o, occurrenceAt? mark? l j = some o)
    (n : Nat) (hclear : Clear mark? l n) : ∃ found, Walk mark? l n found := by
  by_cases hn : n < l.length
  · by_cases htarget : IsTarget mark? l n
    · obtain ⟨o, ho⟩ := hclosed n (outermost_iff.mpr ⟨htarget, hclear⟩)
      have hlt := lt_stop_of_occurrenceAt? ho
      obtain ⟨found, hwalk⟩ := exists_walk hclosed o.stop (hclear.stop ho)
      exact ⟨o :: found, .take ho hwalk⟩
    · obtain ⟨found, hwalk⟩ := exists_walk hclosed (n + 1) (hclear.succ htarget)
      exact ⟨found, .pass hn htarget hwalk⟩
  · exact ⟨[], .done (Nat.le_of_not_lt hn)⟩
termination_by l.length - n

namespace Walk

theorem le_start (h : Walk mark? l n found) : ∀ o ∈ found, n ≤ o.start := by
  induction h with
  | done hn => simp
  | pass hn htarget hrest ih =>
    intro o ho
    have hle := ih o ho
    omega
  | take ho hrest ih =>
    have hlt := lt_stop_of_occurrenceAt? ho
    intro o' ho'
    rcases List.mem_cons.mp ho' with rfl | hmem
    · exact Nat.le_of_eq (start_eq_of_occurrenceAt? ho).symm
    · have hle := ih o' hmem
      omega

/-- The elements are disjoint and in the order of the text. -/
theorem pairwise (h : Walk mark? l n found) :
    found.Pairwise fun a b => a.stop ≤ b.start := by
  induction h with
  | done hn => exact .nil
  | pass hn htarget hrest ih => exact ih
  | take ho hrest ih => exact .cons hrest.le_start ih

/-- A walk that starts in no outermost element meets the outermost targets and no others. -/
theorem mem_iff (h : Walk mark? l n found) (hclear : Clear mark? l n) (o : Occurrence α) :
    o ∈ found ↔ n ≤ o.start ∧ o.IsOutermost mark? l := by
  induction h with
  | @done n hn =>
    have hnone : ¬(n ≤ o.start ∧ o.IsOutermost mark? l) := by
      rintro ⟨hle, hout, -⟩
      obtain ⟨t, mark, ht, -⟩ := (outermost_iff.mp hout).1
      obtain ⟨hlt, -⟩ := List.getElem?_eq_some_iff.mp ht
      omega
    simp [hnone]
  | @pass n found hn htarget hrest ih =>
    rw [ih (hclear.succ htarget)]
    constructor
    · rintro ⟨hle, ho⟩
      exact ⟨by omega, ho⟩
    · rintro ⟨hle, hout, ho⟩
      have hne : o.start ≠ n := by
        intro heq
        rw [heq] at hout
        exact htarget (outermost_iff.mp hout).1
      exact ⟨by omega, hout, ho⟩
  | @take n first found hfirst hrest ih =>
    obtain rfl := start_eq_of_occurrenceAt? hfirst
    have hout : first.IsOutermost mark? l :=
      ⟨outermost_iff.mpr ⟨isTarget_of_occurrenceAt? hfirst, hclear⟩, hfirst⟩
    have hlt := lt_stop_of_occurrenceAt? hfirst
    rw [List.mem_cons, ih (hclear.stop hfirst)]
    constructor
    · rintro (rfl | ⟨hle, ho⟩)
      · exact ⟨Nat.le_refl _, hout⟩
      · exact ⟨by omega, ho⟩
    · rintro ⟨hle, ho⟩
      rcases Nat.eq_or_lt_of_le hle with heq | hbehind
      · have hhere := ho.2
        rw [← heq] at hhere
        exact Or.inl (Option.some.inj (hhere.symm.trans hfirst))
      · exact Or.inr ⟨(outermost_iff.mp ho.1).2 first.start hbehind hout.1 first hfirst, ho⟩

end Walk

/-! ### The text after a walk -/

/-- The text of segments from a place on, with other texts for some elements among them. -/
def spliced (l : List Segment) (n : Nat) : List (Occurrence α × List Char) → List Char
  | [] => sources (l.drop n)
  | (o, text) :: more =>
    sources ((l.drop n).take (o.start - n)) ++ text ++ spliced l o.stop more

theorem spliced_of_lt {more : List (Occurrence α × List Char)} (hn : n < l.length)
    (h : ∀ e ∈ more, n < e.1.start) :
    spliced l n more = l[n].source ++ spliced l (n + 1) more := by
  have hdrop := List.drop_eq_getElem_cons hn
  cases more with
  | nil => rw [spliced, spliced, hdrop, sources_cons]
  | cons e more =>
    have hstart : e.1.start - n = e.1.start - (n + 1) + 1 := by
      have hlt := h e (List.mem_cons_self ..)
      omega
    rw [spliced, spliced, hdrop, hstart, List.take_succ_cons, sources_cons, List.append_assoc,
      List.append_assoc, List.append_assoc]

theorem spliced_of_start_eq {more : List (Occurrence α × List Char)} (text : List Char)
    (h : o.start = n) : spliced l n ((o, text) :: more) = text ++ spliced l o.stop more := by
  rw [spliced, h, Nat.sub_self, List.take_zero]
  rfl

namespace Walk

/-- The walk goes on behind a segment that it passes. -/
theorem spliced_pass (h : Walk mark? l (n + 1) found) (hn : n < l.length)
    (text : Occurrence α → List Char) :
    spliced l n (found.map fun o => (o, text o)) =
      l[n].source ++ spliced l (n + 1) (found.map fun o => (o, text o)) := by
  apply spliced_of_lt hn
  intro e he
  obtain ⟨o, ho, rfl⟩ := List.mem_map.mp he
  exact h.le_start o ho

/-- Every element with its own text makes up the text. -/
theorem spliced_source (h : Walk mark? l n found) :
    spliced l n (found.map fun o => (o, o.element.source)) = sources (l.drop n) := by
  induction h with
  | done hn => rfl
  | pass hn htarget hrest ih =>
    rw [hrest.spliced_pass hn, ih, List.drop_eq_getElem_cons hn, sources_cons]
  | take ho hrest ih =>
    obtain ⟨stretch, hdrop, -, -, hsource⟩ := exists_stretch ho
    rw [List.map_cons, spliced_of_start_eq _ (start_eq_of_occurrenceAt? ho), ih, hdrop,
      sources_append, hsource]

end Walk

namespace Replacement

variable (r : Replacement α ε)

/-- The element of a target is handed to the rule, and what follows it is treated by itself. -/
theorem run_of_occurrenceAt? (h : occurrenceAt? r.mark? l i = some o) :
    r.run (l.drop i) =
      (r.replace o.mark o.element).bind fun text => (r.run (l.drop o.stop)).map (text ++ ·) := by
  obtain ⟨t, ht, hmark, -, ⟨hempty, hstop, helement⟩ | ⟨hempty, p, hp, hstop, helement⟩⟩ :=
    occurrenceAt?_eq_some h
  · rw [drop_of_getElem? ht, r.run_emptyElement _ hmark hempty, helement, hstop]
  · have hclosing : closingIn t.name 0 (l.drop (i + 1)) = some p.toClosing := by
      rw [closingIn]
      exact congrArg _ hp
    rw [drop_of_getElem? ht, r.run_element hmark hempty hclosing, helement, hstop,
      ← rest_eq_drop_of_pair? hp]
    rfl

/-- A walk is what the replacement does. -/
theorem run_of_walk (text : Occurrence α → List Char) (h : Walk r.mark? l n found)
    (hreplace : ∀ o ∈ found, r.replace o.mark o.element = .ok (text o)) :
    r.run (l.drop n) = .ok (spliced l n (found.map fun o => (o, text o))) := by
  induction h with
  | done hn =>
    rw [List.drop_eq_nil_of_le hn, r.run_nil, List.map_nil, spliced, List.drop_eq_nil_of_le hn]
    rfl
  | @pass n found hn htarget hrest ih =>
    have hunmarked : Unmarked r.mark? l[n] := by
      intro t ht
      cases hmark : r.mark? t with
      | none => rfl
      | some mark =>
        exact absurd ⟨t, mark, by rw [List.getElem?_eq_getElem hn, ht], hmark⟩ htarget
    rw [List.drop_eq_getElem_cons hn, r.run_unmarked hunmarked, ih hreplace,
      hrest.spliced_pass hn]
    rfl
  | take ho hrest ih =>
    rw [List.forall_mem_cons] at hreplace
    rw [r.run_of_occurrenceAt? ho, hreplace.1, ih hreplace.2, List.map_cons,
      spliced_of_start_eq _ (start_eq_of_occurrenceAt? ho)]
    rfl

/-- The same rule with every element left as it is. -/
def restoring : Replacement α ε := { r with replace := fun _ e => .ok e.source }

/-- If the outermost targets are closed, the replacement replaces their elements and nothing else:
each goes up to the closing tag that is paired with its opening tag; they are disjoint and in the
order of the text, every target is in exactly one of them, and with their own texts they make up the
text. -/
theorem apply_eq_spliced (s : List Char) (text : Occurrence α → List Char)
    (hclosed : ∀ i t, Outermost r.mark? (segments s) i → (segments s)[i]? = some (.openTag t) →
      t.isEmptyElement = false → ∃ k, Paired t.name (segments s) i k)
    (hreplace : ∀ o, o.IsOutermost r.mark? (segments s) →
      r.replace o.mark o.element = .ok (text o)) :
    ∃ found : List (Occurrence α),
      (∀ o, o ∈ found ↔ o.IsOutermost r.mark? (segments s)) ∧
      (∀ o ∈ found, o.Spans (segments s)) ∧
      (found.Pairwise fun a b => a.stop ≤ b.start) ∧
      (∀ o ∈ found,
        sources (((segments s).drop o.start).take (o.stop - o.start)) = o.element.source) ∧
      (∀ i, IsTarget r.mark? (segments s) i → ∃! o, o ∈ found ∧ o.start ≤ i ∧ i < o.stop) ∧
      r.apply s = .ok (spliced (segments s) 0 (found.map fun o => (o, text o))) ∧
      r.restoring.apply s = .ok s := by
  have helement : ∀ j, Outermost r.mark? (segments s) j →
      ∃ o, occurrenceAt? r.mark? (segments s) j = some o := by
    intro j hout
    refine exists_occurrenceAt? (outermost_iff.mp hout).1 fun t ht hempty => ?_
    obtain ⟨k, hk⟩ := hclosed j t hout ht hempty
    exact hk.pair?_ne_none
  obtain ⟨found, hwalk⟩ := exists_walk helement 0 clear_zero
  have hmem : ∀ o, o ∈ found ↔ o.IsOutermost r.mark? (segments s) := by
    intro o
    rw [hwalk.mem_iff clear_zero]
    exact and_iff_right (Nat.zero_le _)
  refine ⟨found, hmem, fun o ho => spans_of_occurrenceAt? ((hmem o).mp ho).2, hwalk.pairwise, ?_,
    ?_, ?_, ?_⟩
  · intro o ho
    obtain ⟨stretch, hdrop, hstop, -, hsource⟩ := exists_stretch ((hmem o).mp ho).2
    have hlength : o.stop - o.start = stretch.length := by omega
    rw [hdrop, hlength, List.take_left, hsource]
  · intro i htarget
    simp only [hmem]
    exact existsUnique_outermost htarget helement
  · exact r.run_of_walk text hwalk fun o ho => hreplace o ((hmem o).mp ho)
  · have hrun := r.restoring.run_of_walk (fun o => o.element.source) hwalk fun _ _ => rfl
    rw [hwalk.spliced_source] at hrun
    exact hrun.trans (congrArg _ (sources_segments s))

/-- A text with an element that holds one of its own name and overlaps another one, and with tags
that are not closed. -/
def overlapping : List Char := "<a>1<a>x</a><b><i></A>2</b><br>".toList

/-- Every element is a target, and a mark takes the place of its tags. -/
def marking : Replacement Unit Unit where
  mark? _ := some ()
  replace _ e := .ok ('#' :: e.inner)
  unclosed _ := .error ()

theorem apply_eq_spliced_overlapping :
    (∃ found : List (Occurrence Unit),
      (∀ o, o ∈ found ↔ o.IsOutermost marking.mark? (segments overlapping)) ∧
      (∀ o ∈ found, o.Spans (segments overlapping)) ∧
      marking.apply overlapping = .ok (spliced (segments overlapping) 0
        (found.map fun o => (o, '#' :: o.element.inner)))) ∧
      marking.apply overlapping = .ok "#1<a>x</a><b><i>2</b>#".toList ∧
      marking.restoring.apply overlapping = .ok overlapping := by
  have hs : segments overlapping =
      [.openTag ⟨['a'], [], ['>'], false⟩, .text ['1'], .openTag ⟨['a'], [], ['>'], false⟩,
        .text ['x'], .closeTag ['a'] "</a>".toList, .openTag ⟨['b'], [], ['>'], false⟩,
        .openTag ⟨['i'], [], ['>'], false⟩, .closeTag ['A'] "</A>".toList, .text ['2'],
        .closeTag ['b'] "</b>".toList, .openTag ⟨['b', 'r'], [], ['>'], false⟩] := by
    decide +kernel
  have hfirst : Outermost marking.mark? (segments overlapping) 0 := by
    rw [hs]
    exact outermost_iff.mpr ⟨⟨_, (), rfl, rfl⟩, clear_zero⟩
  have hclosed : ∀ i t, Outermost marking.mark? (segments overlapping) i →
      (segments overlapping)[i]? = some (.openTag t) → t.isEmptyElement = false →
        ∃ k, Paired t.name (segments overlapping) i k := by
    intro i t hout ht hempty
    rw [hs] at ht ⊢
    match i with
    | 0 =>
      obtain rfl := Segment.openTag.inj (Option.some.inj ht)
      exact ⟨7, by decide, ⟨_, "</A>".toList, rfl, rfl⟩, rfl⟩
    | 2 | 5 | 6 =>
      -- these tags are in the first element, whether they are closed or not
      have hstop := (outermost_iff.mp hout).2 0 (by decide) hfirst
      rw [hs] at hstop
      exact absurd (hstop _ rfl) (by decide)
    | 10 =>
      obtain rfl := Segment.openTag.inj (Option.some.inj ht)
      exact absurd hempty (by decide)
    | 1 | 3 | 4 | 7 | 8 | 9 | i + 11 => simp at ht
  obtain ⟨found, hmem, hspans, -, -, -, happly, hrestoring⟩ :=
    marking.apply_eq_spliced overlapping (fun o => '#' :: o.element.inner) hclosed
      fun _ _ => rfl
  exact ⟨⟨found, hmem, hspans, happly⟩, by decide +kernel, hrestoring⟩

end Replacement

end Stencil.Markup
