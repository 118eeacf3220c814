import Stencil.Proofs.SortedRuns

/-!
Sorting by parting a list at one of its items. The items that belong before that one are sorted by
themselves, or, if there are none, those that are like it are in order already. Every list is sorted
this way where the test is an order of its items.
-/
namespace Stencil.Sorting

variable {α : Type} {before : α → α → Bool} {P : α → Prop} {items : List α}

theorem median_eq (before : α → α → Bool) (a b c : α) :
    median before a b c = a ∨ median before a b c = b ∨ median before a b c = c := by
  rw [median]
  split
  · split
    · exact .inr (.inr rfl)
    · exact .inr (.inl rfl)
  · exact .inl rfl

/-- The item by which a list is parted is one of the list. -/
theorem exists_typical (before : α → α → Bool) (items : Array α) (start length : Nat)
    (hpos : 0 < length) (hle : start + length ≤ items.size) :
    ∃ v ∈ items, typical before items start length = some v := by
  fun_induction typical before items start length with
  | case1 start length hlt =>
    have hstart : start < items.size := by omega
    exact ⟨items[start], Array.getElem_mem hstart, Array.getElem?_eq_getElem hstart⟩
  | case2 start length hge eighth ih₁ ih₂ ih₃ =>
    obtain ⟨a, ha, hfirst⟩ := ih₁ (by omega) (by omega)
    obtain ⟨b, hb, hsecond⟩ := ih₂ (by omega) (by omega)
    obtain ⟨c, hc, hthird⟩ := ih₃ (by omega) (by omega)
    rw [hfirst, hsecond, hthird]
    refine ⟨median before a b c, ?_, rfl⟩
    rcases median_eq before a b c with heq | heq | heq <;> rwa [heq]

/-- Where no item belongs before the pivot, those that it does not belong before come first, as they
are. -/
theorem sorts_same_append (h : Orders before P) {pivot : α} {sorted : List α}
    (hitems : ∀ a ∈ items, P a) (hpivot : P pivot) (hleast : ∀ a ∈ items, before a pivot = false)
    (hrest : Sorts before P (items.filter fun a => !!before pivot a) sorted) :
    Sorts before P items ((items.filter fun a => !before pivot a) ++ sorted) := by
  refine .parts h hitems (fun a ha b hb hpa hpb => ?_) (.of_ordered ?_) hrest
  · rw [Bool.not_eq_true'] at hpa
    rw [Bool.not_eq_false'] at hpb
    exact h.lt_of_le_of_lt (hitems a ha) hpivot (hitems b hb) hpa hpb
  · refine List.pairwise_of_forall_mem_list fun a ha b hb => ?_
    obtain ⟨ha, hpa⟩ := List.mem_filter.mp ha
    obtain ⟨hb, hpb⟩ := List.mem_filter.mp hb
    rw [Bool.not_eq_true'] at hpa
    exact h.trans (hitems a ha) hpivot (hitems b hb) hpa (hleast b hb)

theorem sorts_lower_append_upper (h : Orders before P) {pivot : α} {sorted sorted' : List α}
    (hitems : ∀ a ∈ items, P a) (hpivot : P pivot)
    (hlower : Sorts before P (items.filter fun a => before a pivot) sorted)
    (hupper : Sorts before P (items.filter fun a => !before a pivot) sorted') :
    Sorts before P items (sorted ++ sorted') :=
  .parts h hitems
    (fun a ha b hb hap hbp => h.lt_of_lt_of_le (hitems a ha) hpivot (hitems b hb) hap hbp)
    hlower hupper

/-- Lists are sorted however many steps may part them, if no item belongs before the floor. -/
theorem exists_sortByPivot (h : Orders before P) (limit : Nat) (floor : Option α)
    (items : List α) (hitems : ∀ a ∈ items, P a)
    (hfloor : ∀ f ∈ floor, P f ∧ ∀ v ∈ items, before v f = false) :
    ∃ sorted, sortByPivot before limit floor items = some sorted ∧ Sorts before P items sorted := by
  induction limit generalizing floor items with
  | zero =>
    rw [sortByPivot]
    split
    · exact isSort_sortShort h items hitems
    -- All runs are sorted at once, so none is left for later.
    · exact isSort_sortByRuns h (fun htrue : true = false => nomatch htrue) items hitems
  | succ limit ih =>
    rw [sortByPivot]
    split
    · exact isSort_sortShort h items hitems
    next hlong =>
    have hpart (q : α → Bool) : ∀ a ∈ items.filter q, P a :=
      fun a ha => hitems a (List.mem_filter.mp ha).1
    obtain ⟨pivot, hmem, htypical⟩ := exists_typical before items.toArray 0 items.length (by omega)
      (by rw [List.size_toArray]; omega)
    have hpivot : P pivot := hitems pivot (List.mem_toArray.mp hmem)
    rw [htypical]
    simp only [List.partition_eq_filter_filter, Function.comp_def, Option.bind_eq_bind,
      Option.bind_some]
    split
    next hfirst =>
      have hleast (a) (ha : a ∈ items) : before a pivot = false := by
        rcases (Bool.or_eq_true _ _).mp hfirst with hany | hempty
        · obtain ⟨f, rfl, hfp⟩ := (Option.any_eq_true _ _).mp hany
          rw [Bool.not_eq_true'] at hfp
          obtain ⟨hPf, hbelow⟩ := hfloor f rfl
          exact h.trans hpivot hPf (hitems a ha) hfp (hbelow a ha)
        · rw [List.isEmpty_iff, List.filter_eq_nil_iff] at hempty
          exact Bool.eq_false_iff.mpr (hempty a ha)
      obtain ⟨sorted, hsort, hsorts⟩ := ih none (items.filter fun a => !!before pivot a)
        (hpart _) fun _ hf => nomatch hf
      rw [hsort]
      exact ⟨_, rfl, sorts_same_append h hitems hpivot hleast hsorts⟩
    next =>
      obtain ⟨sorted', hsort', hsorts'⟩ := ih (some pivot) (items.filter fun a => !before a pivot)
        (hpart _) fun f hf => by
          obtain rfl : pivot = f := Option.some.inj hf
          refine ⟨hpivot, fun a ha => ?_⟩
          rw [← Bool.not_eq_true']
          exact (List.mem_filter.mp ha).2
      obtain ⟨sorted, hsort, hsorts⟩ := ih floor (items.filter fun a => before a pivot) (hpart _)
        fun f hf => ⟨(hfloor f hf).1, fun a ha => (hfloor f hf).2 a (List.mem_filter.mp ha).1⟩
      rw [hsort', hsort]
      exact ⟨_, rfl, sorts_lower_append_upper h hitems hpivot hsorts hsorts'⟩

/-- What is in no order yet is sorted by the items it is parted at. -/
theorem isSort_sortUnordered (h : Orders before P) : IsSort before P (sortUnordered before) :=
  fun items hitems =>
    exists_sortByPivot h (2 * items.length.log2) none items hitems fun _ hf => nomatch hf

theorem isSort_sortBy (h : Orders before P) : IsSort before P (sortBy before) := by
  intro items hitems
  rw [sortBy]
  split
  · exact ⟨_, rfl, sorts_insertionSort h hitems⟩
  · exact isSort_sortByRuns h (fun _ => isSort_sortUnordered h) items hitems

/-- Short enough lists are sorted into something by any test. -/
theorem isSome_sortBy (before : α → α → Bool) (hlength : items.length ≤ insertionLength) :
    (sortBy before items).isSome = true := by
  rw [sortBy, if_pos hlength]
  rfl

end Stencil.Sorting
