import Stencil.Sorting.Basic

/-!
What it is to sort, where the test whether one item belongs before another is an order of the items
at hand. A sorted list has the same items, none behind one that it belongs before, and items that
are alike in the order in which they were. This determines the list, and merging, parting and
turning lists around keep it.
-/
namespace Stencil.Sorting

variable {α : Type} {before : α → α → Bool} {P : α → Prop} {a b c v : α}
  {items items' sorted sorted' : List α}

/-- The test is an order of the items with some property: of two items at most one belongs before
the other, and an item that may stand in front of a second one, as that may of a third, may stand in
front of the third. -/
structure Orders (before : α → α → Bool) (P : α → Prop) : Prop where
  asymm : ∀ {a b}, P a → P b → before a b = true → before b a = false
  trans : ∀ {a b c}, P a → P b → P c →
    before b a = false → before c b = false → before c a = false

/-- Neither of two items belongs before the other. -/
def alike (before : α → α → Bool) (a b : α) : Bool := !before a b && !before b a

/-- Items with the property of which none belongs before an earlier one. -/
structure InOrder (before : α → α → Bool) (P : α → Prop) (items : List α) : Prop where
  all : ∀ a ∈ items, P a
  ordered : items.Pairwise fun a b => before b a = false

/-- One list is the other one in order; items that are alike keep their places. -/
structure Sorts (before : α → α → Bool) (P : α → Prop) (items sorted : List α) : Prop where
  perm : sorted.Perm items
  ordered : sorted.Pairwise fun a b => before b a = false
  filter_alike : ∀ c, P c → sorted.filter (alike before c) = items.filter (alike before c)

/-- A way of sorting that always gives the list in order. -/
def IsSort (before : α → α → Bool) (P : α → Prop) (sort : List α → Option (List α)) : Prop :=
  ∀ items : List α, (∀ a ∈ items, P a) →
    ∃ sorted, sort items = some sorted ∧ Sorts before P items sorted

theorem alike_iff : alike before a b = true ↔ before a b = false ∧ before b a = false := by
  simp [alike]

theorem alike_swap : alike (fun a b => before b a) c = alike before c := by
  funext a
  exact Bool.and_comm _ _

namespace Orders

theorem swap (h : Orders before P) : Orders (fun a b => before b a) P where
  asymm ha hb := h.asymm hb ha
  trans ha hb hc hab hbc := h.trans hc hb ha hbc hab

theorem irrefl (h : Orders before P) (ha : P a) : before a a = false := by
  cases haa : before a a with
  | false => rfl
  | true => exact haa ▸ h.asymm ha ha haa

theorem alike_self (h : Orders before P) (ha : P a) : alike before a a = true :=
  alike_iff.mpr ⟨h.irrefl ha, h.irrefl ha⟩

/-- What belongs before an item also belongs before what may stand behind that item. -/
theorem lt_of_lt_of_le (h : Orders before P) (ha : P a) (hb : P b) (hc : P c)
    (hab : before a b = true) (hbc : before c b = false) : before a c = true := by
  cases hac : before a c with
  | true => rfl
  | false =>
    rw [h.trans hb hc ha hbc hac] at hab
    contradiction

theorem lt_of_le_of_lt (h : Orders before P) (ha : P a) (hb : P b) (hc : P c)
    (hab : before b a = false) (hbc : before b c = true) : before a c = true :=
  h.swap.lt_of_lt_of_le hc hb ha hbc hab

theorem lt_trans (h : Orders before P) (ha : P a) (hb : P b) (hc : P c)
    (hab : before a b = true) (hbc : before b c = true) : before a c = true :=
  h.lt_of_lt_of_le ha hb hc hab (h.asymm hb hc hbc)

/-- Two items that are like a third are alike. -/
theorem alike_of_alike (h : Orders before P) (ha : P a) (hb : P b) (hc : P c)
    (hca : alike before c a = true) (hcb : alike before c b = true) : alike before a b = true := by
  rw [alike_iff] at *
  exact ⟨h.trans hb hc ha hcb.1 hca.2, h.trans ha hc hb hca.1 hcb.2⟩

end Orders

namespace InOrder

theorem cons_iff : InOrder before P (a :: items) ↔
    P a ∧ (∀ b ∈ items, before b a = false) ∧ InOrder before P items := by
  constructor
  · rintro ⟨hall, hordered⟩
    obtain ⟨ha, hrest⟩ := List.forall_mem_cons.mp hall
    obtain ⟨hfirst, hlater⟩ := List.pairwise_cons.mp hordered
    exact ⟨ha, hfirst, hrest, hlater⟩
  · rintro ⟨ha, hfirst, hrest, hlater⟩
    exact ⟨List.forall_mem_cons.mpr ⟨ha, hrest⟩, List.pairwise_cons.mpr ⟨hfirst, hlater⟩⟩

/-- A list in order is in order from its end, by the test from the other side. -/
theorem reverse (h : InOrder before P items) :
    InOrder (fun a b => before b a) P items.reverse :=
  ⟨fun a ha => h.all a (List.mem_reverse.mp ha), List.pairwise_reverse.mpr h.ordered⟩

/-- What may stand in front of the first item may stand in front of all. -/
theorem le_of_le_head (h : Orders before P) (hitems : InOrder before P (b :: items)) (ha : P a)
    (hba : before b a = false) : ∀ x ∈ b :: items, before x a = false := by
  obtain ⟨hb, hfirst, hrest⟩ := cons_iff.mp hitems
  intro x hx
  rcases List.mem_cons.mp hx with rfl | hx
  · exact hba
  · exact h.trans ha hb (hrest.all x hx) hba (hfirst x hx)

/-- What belongs before the first item belongs before all. -/
theorem lt_of_lt_head (h : Orders before P) (hitems : InOrder before P (a :: items)) (hb : P b)
    (hba : before b a = true) : ∀ x ∈ a :: items, before b x = true := by
  obtain ⟨ha, hfirst, hrest⟩ := cons_iff.mp hitems
  intro x hx
  rcases List.mem_cons.mp hx with rfl | hx
  · exact hba
  · exact h.lt_of_lt_of_le hb ha (hrest.all x hx) hba (hfirst x hx)

/-! ### Merging -/

theorem merge (h : Orders before P) (hitems : InOrder before P items)
    (hitems' : InOrder before P items') :
    InOrder before P (items.merge items' fun a b => !before b a) := by
  induction items generalizing items' with
  | nil => rwa [List.nil_merge]
  | cons a items ih =>
    obtain ⟨ha, hfirst, hrest⟩ := cons_iff.mp hitems
    induction items' with
    | nil => rwa [List.merge_right]
    | cons b items' ih' =>
      obtain ⟨hb, hfirst', hrest'⟩ := cons_iff.mp hitems'
      rw [List.cons_merge_cons]
      cases hba : before b a with
      | false =>
        refine cons_iff.mpr ⟨ha, fun x hx => ?_, ih hrest hitems'⟩
        rcases List.mem_merge.mp hx with hx | hx
        · exact hfirst x hx
        · exact hitems'.le_of_le_head h ha hba x hx
      | true =>
        refine cons_iff.mpr ⟨hb, fun x hx => ?_, ih' hrest'⟩
        rcases List.mem_merge.mp hx with hx | hx
        · exact hitems.le_of_le_head h hb (h.asymm hb ha hba) x hx
        · exact hfirst' x hx

/-- Of the items that are like one, those of the left list come first. -/
theorem filter_merge (h : Orders before P) (hitems : InOrder before P items)
    (hitems' : ∀ a ∈ items', P a) (hc : P c) :
    (items.merge items' fun a b => !before b a).filter (alike before c) =
      items.filter (alike before c) ++ items'.filter (alike before c) := by
  induction items generalizing items' with
  | nil => rw [List.nil_merge, List.filter_nil, List.nil_append]
  | cons a items ih =>
    obtain ⟨-, -, hrest⟩ := cons_iff.mp hitems
    induction items' with
    | nil => rw [List.merge_right, List.filter_nil, List.append_nil]
    | cons b items' ih' =>
      obtain ⟨hb, hrest'⟩ := List.forall_mem_cons.mp hitems'
      rw [List.cons_merge_cons]
      cases hba : before b a with
      | false =>
        show (a :: items.merge (b :: items') _).filter _ = _
        rw [List.filter_cons, List.filter_cons (x := a), ih hrest hitems']
        split <;> rfl
      | true =>
        show (b :: (a :: items).merge items' _).filter _ = _
        rw [List.filter_cons (x := b), ih' hrest', List.filter_cons (x := b)]
        cases hcb : alike before c b with
        | false => rfl
        | true =>
          -- All of the left list is behind an item that is like `c`.
          have hnone : (a :: items).filter (alike before c) = [] := by
            apply List.filter_eq_nil_iff.mpr
            intro x hx hcx
            have hlike := h.alike_of_alike hb (hitems.all x hx) hc hcb hcx
            have hbx := hitems.lt_of_lt_head h hb hba x hx
            exact Bool.false_ne_true ((alike_iff.mp hlike).1.symm.trans hbx)
          rw [hnone]
          rfl

/-- Two lists in order are the same if they have the same items, alike ones in the same order. -/
theorem eq_of_filter_alike (h : Orders before P) (hsorted : InOrder before P sorted)
    (hsorted' : InOrder before P sorted') (hperm : sorted.Perm sorted')
    (hfilter : ∀ c, P c → sorted.filter (alike before c) = sorted'.filter (alike before c)) :
    sorted = sorted' := by
  induction sorted generalizing sorted' with
  | nil => exact hperm.nil_eq
  | cons a rest ih =>
    cases sorted' with
    | nil => nomatch hperm.eq_nil
    | cons b rest' =>
      obtain ⟨ha, -, hrest⟩ := cons_iff.mp hsorted
      obtain ⟨hb, -, hrest'⟩ := cons_iff.mp hsorted'
      have hba : before b a = false :=
        hsorted.le_of_le_head h ha (h.irrefl ha) b (hperm.mem_iff.mpr List.mem_cons_self)
      have hab : before a b = false :=
        hsorted'.le_of_le_head h hb (h.irrefl hb) a (hperm.mem_iff.mp List.mem_cons_self)
      -- The first items are alike, so they are the first ones that are like `a`.
      obtain rfl : a = b := by
        have hsame := hfilter a ha
        rw [List.filter_cons_of_pos (h.alike_self ha),
          List.filter_cons_of_pos (alike_iff.mpr ⟨hab, hba⟩)] at hsame
        exact List.head_eq_of_cons_eq hsame
      rw [ih hrest hrest' (List.Perm.cons_inv hperm) fun c hc => ?_]
      have hsame := hfilter c hc
      rw [List.filter_cons, List.filter_cons (x := a)] at hsame
      split at hsame
      · exact List.tail_eq_of_cons_eq hsame
      · exact hsame

end InOrder

/-! ### Sorted lists -/

theorem filter_filter_of_imp {p q : α → Bool} (h : ∀ a ∈ items, p a = true → q a = true) :
    (items.filter q).filter p = items.filter p := by
  rw [List.filter_filter]
  refine List.filter_congr fun a ha => ?_
  cases hp : p a with
  | false => rfl
  | true => exact h a ha hp

theorem filter_filter_of_not {p q : α → Bool} (h : ∀ a ∈ items, p a = true → q a = false) :
    (items.filter q).filter p = [] := by
  apply List.filter_eq_nil_iff.mpr
  intro a ha hp
  obtain ⟨hmem, hq⟩ := List.mem_filter.mp ha
  exact Bool.false_ne_true ((h a hmem hp).symm.trans hq)

namespace Sorts

theorem mem_iff (h : Sorts before P items sorted) : a ∈ sorted ↔ a ∈ items := h.perm.mem_iff

theorem length_eq (h : Sorts before P items sorted) : sorted.length = items.length :=
  h.perm.length_eq

theorem nil : Sorts before P [] [] := ⟨.refl _, .nil, fun _ _ => rfl⟩

theorem singleton : Sorts before P [v] [v] := ⟨.refl _, List.pairwise_singleton _ _, fun _ _ => rfl⟩

theorem inOrder (h : Sorts before P items sorted) (hitems : ∀ a ∈ items, P a) :
    InOrder before P sorted :=
  ⟨fun a ha => hitems a (h.mem_iff.mp ha), h.ordered⟩

theorem merge (h : Orders before P) (hitems : ∀ a ∈ items, P a) (hitems' : ∀ a ∈ items', P a)
    (hsorts : Sorts before P items sorted) (hsorts' : Sorts before P items' sorted') :
    Sorts before P (items ++ items') (sorted.merge sorted' fun a b => !before b a) := by
  have hsorted := hsorts.inOrder hitems
  have hsorted' := hsorts'.inOrder hitems'
  refine ⟨?_, (hsorted.merge h hsorted').ordered, fun c hc => ?_⟩
  · exact (List.merge_perm_append _).trans (hsorts.perm.append hsorts'.perm)
  · rw [hsorted.filter_merge h hsorted'.all hc, hsorts.filter_alike c hc,
      hsorts'.filter_alike c hc, List.filter_append]

/-- A list is sorted from its end by the test from the other side. -/
theorem reverse (h : Sorts before P items sorted) :
    Sorts (fun a b => before b a) P items.reverse sorted.reverse := by
  refine ⟨?_, List.pairwise_reverse.mpr h.ordered, fun c hc => ?_⟩
  · exact sorted.reverse_perm.trans (h.perm.trans items.reverse_perm.symm)
  · rw [alike_swap, List.filter_reverse, List.filter_reverse, h.filter_alike c hc]

/-- There is one list in order. -/
theorem unique (h : Orders before P) (hitems : ∀ a ∈ items, P a)
    (hsorts : Sorts before P items sorted) (hsorts' : Sorts before P items sorted') :
    sorted = sorted' :=
  (hsorts.inOrder hitems).eq_of_filter_alike h (hsorts'.inOrder hitems)
    (hsorts.perm.trans hsorts'.perm.symm) fun c hc =>
      (hsorts.filter_alike c hc).trans (hsorts'.filter_alike c hc).symm

theorem of_ordered (hordered : items.Pairwise fun a b => before b a = false) :
    Sorts before P items items :=
  ⟨.refl _, hordered, fun _ _ => rfl⟩

/-- A list in which every item belongs behind the later ones is sorted by turning it around. -/
theorem of_descending (h : Orders before P) (hitems : ∀ a ∈ items, P a)
    (hdescends : items.Pairwise fun a b => before b a = true) :
    Sorts before P items items.reverse := by
  refine ⟨items.reverse_perm, ?_, fun c hc => ?_⟩
  · rw [List.pairwise_reverse]
    refine hdescends.imp_of_mem fun ha hb hba => ?_
    exact h.asymm (hitems _ hb) (hitems _ ha) hba
  · -- At most one item is like `c`.
    induction items with
    | nil => rfl
    | cons a items ih =>
      obtain ⟨ha, hrest⟩ := List.forall_mem_cons.mp hitems
      obtain ⟨hfirst, hlater⟩ := List.pairwise_cons.mp hdescends
      rw [List.reverse_cons, List.filter_append, ih hrest hlater]
      cases hca : alike before c a with
      | false =>
        rw [List.filter_cons_of_neg (Bool.eq_false_iff.mp hca),
          List.filter_cons_of_neg (Bool.eq_false_iff.mp hca), List.filter_nil, List.append_nil]
      | true =>
        have hnone : items.filter (alike before c) = [] := by
          apply List.filter_eq_nil_iff.mpr
          intro b hb hcb
          have hlike := h.alike_of_alike ha (hrest b hb) hc hca hcb
          exact Bool.false_ne_true ((alike_iff.mp hlike).2.symm.trans (hfirst b hb))
        rw [hnone, List.filter_cons_of_pos hca, List.filter_cons_of_pos hca, hnone]
        rfl

/-- A list is sorted in two parts if each item of the first belongs before each of the second. -/
theorem parts (h : Orders before P) (hitems : ∀ a ∈ items, P a) {q : α → Bool}
    (hparts : ∀ a ∈ items, ∀ b ∈ items, q a = true → q b = false → before a b = true)
    (hlower : Sorts before P (items.filter q) sorted)
    (hupper : Sorts before P (items.filter fun a => !q a) sorted') :
    Sorts before P items (sorted ++ sorted') := by
  refine ⟨?_, ?_, fun c hc => ?_⟩
  · exact (hlower.perm.append hupper.perm).trans (List.filter_append_perm q items)
  · refine List.pairwise_append.mpr ⟨hlower.ordered, hupper.ordered, fun a ha b hb => ?_⟩
    obtain ⟨hmem, hqa⟩ := List.mem_filter.mp (hlower.mem_iff.mp ha)
    obtain ⟨hmem', hqb⟩ := List.mem_filter.mp (hupper.mem_iff.mp hb)
    rw [Bool.not_eq_true'] at hqb
    exact h.asymm (hitems a hmem) (hitems b hmem') (hparts a hmem b hmem' hqa hqb)
  · rw [List.filter_append, hlower.filter_alike c hc, hupper.filter_alike c hc]
    -- What is like `c` is all in one part.
    by_cases hlow : ∃ a ∈ items, q a = true ∧ alike before c a = true
    · obtain ⟨a, ha, hqa, hca⟩ := hlow
      have hall (b) (hb : b ∈ items) (hcb : alike before c b = true) : q b = true := by
        cases hqb : q b with
        | true => rfl
        | false =>
          have hlike := h.alike_of_alike (hitems a ha) (hitems b hb) hc hca hcb
          exact (alike_iff.mp hlike).1.symm.trans (hparts a ha b hb hqa hqb)
      rw [filter_filter_of_imp hall, filter_filter_of_not fun b hb hcb => ?_, List.append_nil]
      rw [hall b hb hcb]
      rfl
    · have hnone (a) (ha : a ∈ items) (hca : alike before c a = true) : q a = false :=
        Bool.eq_false_iff.mpr fun hqa => hlow ⟨a, ha, hqa, hca⟩
      rw [filter_filter_of_not hnone, filter_filter_of_imp fun a ha hca => ?_, List.nil_append]
      rw [hnone a ha hca]
      rfl

end Sorts

end Stencil.Sorting
