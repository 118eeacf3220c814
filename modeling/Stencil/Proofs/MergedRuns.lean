import Stencil.Proofs.StableSorting

/-!
What short lists are sorted by. Putting an item into a run is a merge from the end of the run, and
the tree of comparisons for four items is a merge of two pairs. A merge from both ends finds the
same cut from either end, since there is one cut of each length, so it uses up both runs.
-/
namespace Stencil.Sorting

variable {α : Type} {before : α → α → Bool} {P : α → Prop} {a b c d v w x y : α}
  {items items' left right : List α}

/-! ### Insertion -/

theorem insertSorted_eq_merge (v : α) (run : List α) :
    insertSorted before v run = [v].merge run fun a b => !before a b := by
  induction run with
  | nil => rw [insertSorted, List.merge_right]
  | cons w rest ih =>
    rw [insertSorted, List.cons_merge_cons, List.nil_merge, ih]
    cases before v w <;> rfl

theorem sorts_foldl_insertSorted (h : Orders before P) {added run : List α}
    (hitems : ∀ a ∈ items, P a) (hadded : ∀ a ∈ added, P a)
    (hsorts : Sorts (fun a b => before b a) P items.reverse run) :
    Sorts (fun a b => before b a) P (items ++ added).reverse
      (added.foldl (fun run v => insertSorted before v run) run) := by
  induction added generalizing items run with
  | nil => rwa [List.append_nil]
  | cons v rest ih =>
    obtain ⟨hv, hrest⟩ := List.forall_mem_cons.mp hadded
    rw [List.foldl_cons, List.append_cons]
    apply ih _ hrest
    · rw [List.reverse_concat, insertSorted_eq_merge]
      exact .merge h.swap (List.forall_mem_singleton.mpr hv)
        (fun a ha => hitems a (List.mem_reverse.mp ha)) .singleton hsorts
    · exact List.forall_mem_append.mpr ⟨hitems, List.forall_mem_singleton.mpr hv⟩

theorem sorts_insertAll (h : Orders before P) {run added : List α} (hitems : ∀ a ∈ items, P a)
    (hadded : ∀ a ∈ added, P a) (hsorts : Sorts before P items run) :
    Sorts before P (items ++ added) (insertAll before run added) := by
  have hfold := sorts_foldl_insertSorted h hitems hadded hsorts.reverse
  have hback := hfold.reverse
  rwa [List.reverse_reverse] at hback

theorem sorts_insertionSort (h : Orders before P) (hitems : ∀ a ∈ items, P a) :
    Sorts before P items (insertionSort before items) :=
  sorts_insertAll h (List.forall_mem_nil P) hitems .nil

/-! ### Four items -/

theorem sortTwo_eq_merge (v w : α) :
    [v].merge [w] (fun l r => !before r l) =
      [(sortTwo before v w).1, (sortTwo before v w).2] := by
  rw [List.cons_merge_cons, List.nil_merge, List.merge_right, sortTwo]
  cases before w v <;> rfl

theorem joinPairs_eq_merge (h : Orders before P) (ha : P a) (hb : P b) (hc : P c) (hd : P d)
    (hab : before b a = false) (hcd : before d c = false) :
    joinPairs before (a, b) (c, d) = [a, b].merge [c, d] fun l r => !before r l := by
  simp only [joinPairs, List.cons_merge_cons, List.nil_merge, List.merge_right, sortTwo]
  cases hlow : before c a with
  | false =>
    cases hhigh : before d b with
    | false => cases hcb : before c b <;> simp [hcb]
    | true =>
      have hcb : before c b = true := h.lt_of_le_of_lt hc hd hb hcd hhigh
      simp [hcd, hcb]
  | true =>
    cases hhigh : before d b with
    | false =>
      have hda : before d a = false := h.trans ha hb hd hab hhigh
      simp [hab, hda]
    | true => cases hda : before d a <;> simp [hda]

theorem not_before_sortTwo (h : Orders before P) (hv : P v) (hw : P w) :
    before (sortTwo before v w).2 (sortTwo before v w).1 = false := by
  rw [sortTwo]
  cases hwv : before w v with
  | false => exact hwv
  | true => exact h.asymm hw hv hwv

theorem sorts_sortTwo (h : Orders before P) (hv : P v) (hw : P w) :
    Sorts before P [v, w] [(sortTwo before v w).1, (sortTwo before v w).2] := by
  show Sorts before P ([v] ++ [w]) _
  rw [← sortTwo_eq_merge]
  exact .merge h (List.forall_mem_singleton.mpr hv) (List.forall_mem_singleton.mpr hw) .singleton
    .singleton

theorem sorts_sortFour (h : Orders before P) (hv : P v) (hw : P w) (hx : P x) (hy : P y) :
    Sorts before P [v, w, x, y] (sortFour before v w x y) := by
  have hvw : ∀ a ∈ [v, w], P a :=
    List.forall_mem_cons.mpr ⟨hv, List.forall_mem_singleton.mpr hw⟩
  have hxy : ∀ a ∈ [x, y], P a :=
    List.forall_mem_cons.mpr ⟨hx, List.forall_mem_singleton.mpr hy⟩
  have hfirst := sorts_sortTwo h hv hw
  have hsecond := sorts_sortTwo h hx hy
  have hfour := joinPairs_eq_merge h (hvw _ (hfirst.mem_iff.mp (.head _)))
    (hvw _ (hfirst.mem_iff.mp (.tail _ (.head _)))) (hxy _ (hsecond.mem_iff.mp (.head _)))
    (hxy _ (hsecond.mem_iff.mp (.tail _ (.head _)))) (not_before_sortTwo h hv hw)
    (not_before_sortTwo h hx hy)
  show Sorts before P ([v, w] ++ [x, y]) _
  rw [sortFour, hfour]
  exact .merge h hvw hxy hfirst hsecond

theorem sorts_sortHalf (h : Orders before P) (byFour : Bool) (hitems : ∀ a ∈ items, P a) :
    Sorts before P items (sortHalf before byFour items) := by
  rw [sortHalf.eq_def]
  split
  · next v w x y rest =>
    obtain ⟨hfour, hrest⟩ :=
      List.forall_mem_append.mp (show ∀ a ∈ [v, w, x, y] ++ rest, P a from hitems)
    exact sorts_insertAll h hfour hrest (sorts_sortFour h (hfour v (by simp)) (hfour w (by simp))
      (hfour x (by simp)) (hfour y (by simp)))
  · exact sorts_insertionSort h hitems

/-! ### Merges of two runs -/

theorem sorts_mergeRuns (h : Orders before P) (hitems : ∀ a ∈ items, P a)
    (hitems' : ∀ a ∈ items', P a) (hleft : Sorts before P items left)
    (hright : Sorts before P items' right) :
    Sorts before P (items ++ items') (mergeRuns before left right) := by
  rw [mergeRuns]
  split
  · exact .merge h hitems hitems' hleft hright
  · have hback := (hright.reverse.merge h.swap (fun a ha => hitems' a (List.mem_reverse.mp ha))
      (fun a ha => hitems a (List.mem_reverse.mp ha)) hleft.reverse).reverse
    rwa [← List.reverse_append, List.reverse_reverse] at hback

/-- A place at which the merge of two runs can be cut: `i` items of the left run and `j` of the
right one come before all others. -/
structure IsCut (before : α → α → Bool) (left right : List α) (i j : Nat) : Prop where
  le_left : i ≤ left.length
  le_right : j ≤ right.length
  low : ∀ a ∈ left.take i, ∀ b ∈ right.drop j, before b a = false
  high : ∀ b ∈ right.take j, ∀ a ∈ left.drop i, before b a = true

theorem exists_mem_take_drop {i i' : Nat} (hlt : i' < i) (hle : i ≤ items.length) :
    ∃ a, a ∈ items.take i ∧ a ∈ items.drop i' := by
  refine ⟨items[i'], List.mem_take_iff_getElem.mpr ⟨i', by omega, rfl⟩, ?_⟩
  exact List.mem_drop_iff_getElem.mpr ⟨0, by omega, rfl⟩

namespace IsCut

variable {i j i' j' : Nat}

theorem zero : IsCut before left right 0 0 :=
  ⟨Nat.zero_le _, Nat.zero_le _, List.forall_mem_nil _, List.forall_mem_nil _⟩

theorem nil_left (hj : j ≤ right.length) : IsCut before [] right 0 j :=
  ⟨Nat.le_refl _, hj, List.forall_mem_nil _, fun _ _ => List.forall_mem_nil _⟩

theorem nil_right (hi : i ≤ left.length) : IsCut before left [] i 0 :=
  ⟨hi, Nat.le_refl _, fun _ _ => List.forall_mem_nil _, List.forall_mem_nil _⟩

theorem cons_left (h : IsCut before left right i j) (hfirst : ∀ b ∈ right, before b a = false) :
    IsCut before (a :: left) right (i + 1) j := by
  refine ⟨Nat.succ_le_succ h.le_left, h.le_right, fun x hx b hb => ?_, h.high⟩
  rcases List.mem_cons.mp hx with rfl | hx
  · exact hfirst b (List.mem_of_mem_drop hb)
  · exact h.low x hx b hb

theorem cons_right (h : IsCut before left right i j) (hfirst : ∀ a ∈ left, before b a = true) :
    IsCut before left (b :: right) i (j + 1) := by
  refine ⟨h.le_left, Nat.succ_le_succ h.le_right, h.low, fun x hx a ha => ?_⟩
  rcases List.mem_cons.mp hx with rfl | hx
  · exact hfirst a (List.mem_of_mem_drop ha)
  · exact h.high x hx a ha

/-- Of two cuts, the one with fewer items in front has fewer of either run. -/
theorem mono (h : IsCut before left right i j) (h' : IsCut before left right i' j')
    (hle : i + j ≤ i' + j') : i ≤ i' ∧ j ≤ j' := by
  have hi := h.le_left
  have hj := h.le_right
  have hi' := h'.le_left
  have hj' := h'.le_right
  -- Else an item of either run is in front of one cut and behind the other one.
  have hfirst : ¬ i' < i := by
    intro hlt
    obtain ⟨a, ha, ha'⟩ := exists_mem_take_drop hlt hi
    obtain ⟨b, hb, hb'⟩ := exists_mem_take_drop (show j < j' by omega) hj'
    exact Bool.false_ne_true ((h.low a ha b hb').symm.trans (h'.high b hb a ha'))
  have hsecond : ¬ j' < j := by
    intro hlt
    obtain ⟨a, ha, ha'⟩ := exists_mem_take_drop (show i < i' by omega) hi'
    obtain ⟨b, hb, hb'⟩ := exists_mem_take_drop hlt hj
    exact Bool.false_ne_true ((h'.low a ha b hb').symm.trans (h.high b hb a ha'))
  exact ⟨Nat.le_of_not_lt hfirst, Nat.le_of_not_lt hsecond⟩

/-- A cut of the runs that is found from their ends. -/
theorem of_reverse (h : IsCut (fun a b => before b a) right.reverse left.reverse j i) :
    IsCut before left right (left.length - i) (right.length - j) := by
  refine ⟨Nat.sub_le _ _, Nat.sub_le _ _, fun a ha b hb => ?_, fun b hb a ha => ?_⟩
  · apply h.low b _ a
    · rw [List.drop_reverse]
      exact List.mem_reverse.mpr ha
    · rw [List.take_reverse]
      exact List.mem_reverse.mpr hb
  · apply h.high a _ b
    · rw [List.drop_reverse]
      exact List.mem_reverse.mpr hb
    · rw [List.take_reverse]
      exact List.mem_reverse.mpr ha

end IsCut

theorem mergeStart_fst (first : α → α → Bool) (n : Nat) (left right : List α) :
    (mergeStart first n left right).1 = (left.merge right first).take n := by
  fun_induction mergeStart first n left right with
  | case1 => rfl
  | case2 => rw [List.nil_merge]
  | case3 => rw [List.merge_right]
  | case4 n a as b bs hab items count heq ih =>
    rw [List.cons_merge_cons_pos _ _ _ hab, List.take_succ_cons, ← ih, heq]
  | case5 n a as b bs hab items count heq ih =>
    rw [List.cons_merge_cons_neg _ _ _ hab, List.take_succ_cons, ← ih, heq]

/-- The items that a merge starts with are cut off both runs, and the rest of it is the merge of
what is left of them. -/
theorem exists_isCut_mergeStart (h : Orders before P) {n : Nat} (hleft : InOrder before P left)
    (hright : InOrder before P right) (hn : n ≤ left.length + right.length) :
    ∃ i j, (mergeStart (fun l r => !before r l) n left right).2 = i ∧ i + j = n ∧
      IsCut before left right i j ∧
      (left.merge right fun l r => !before r l).drop n =
        (left.drop i).merge (right.drop j) fun l r => !before r l := by
  fun_induction mergeStart (fun l r => !before r l) n left right with
  | case1 left right => exact ⟨0, 0, rfl, rfl, .zero, rfl⟩
  | case2 n right =>
    rw [List.length_nil, Nat.zero_add] at hn
    refine ⟨0, n, rfl, Nat.zero_add n, .nil_left hn, ?_⟩
    rw [List.nil_merge, List.drop_nil, List.nil_merge]
  | case3 n left =>
    refine ⟨n, 0, Nat.min_eq_left hn, rfl, .nil_right hn, ?_⟩
    rw [List.merge_right, List.drop_nil, List.merge_right]
  | case4 n a as b bs hab items count heq ih =>
    obtain ⟨ha, -, has⟩ := InOrder.cons_iff.mp hleft
    obtain ⟨i, j, hcount, rfl, hcut, hdrop⟩ := ih has hright
      (by simp only [List.length_cons] at hn ⊢; omega)
    rw [heq] at hcount
    refine ⟨i + 1, j, congrArg (· + 1) hcount, Nat.succ_add i j, hcut.cons_left ?_, ?_⟩
    · exact hright.le_of_le_head h ha ((Bool.not_eq_true' _).mp hab)
    · rw [List.cons_merge_cons, if_pos hab, List.drop_succ_cons, List.drop_succ_cons, hdrop]
  | case5 n a as b bs hab items count heq ih =>
    obtain ⟨hb, -, hbs⟩ := InOrder.cons_iff.mp hright
    obtain ⟨i, j, hcount, rfl, hcut, hdrop⟩ := ih hleft hbs
      (by simp only [List.length_cons] at hn ⊢; omega)
    rw [heq] at hcount
    refine ⟨i, j + 1, hcount, rfl, hcut.cons_right ?_, ?_⟩
    · rw [Bool.not_eq_true', Bool.not_eq_false] at hab
      exact hleft.lt_of_lt_head h hb hab
    · rw [List.cons_merge_cons, if_neg hab, List.drop_succ_cons, List.drop_succ_cons, hdrop]

/-- The merge of two runs from their ends. -/
theorem reverse_merge_reverse (h : Orders before P) (hleft : InOrder before P left)
    (hright : InOrder before P right) :
    right.reverse.merge left.reverse (fun r l => !before r l) =
      (left.merge right fun l r => !before r l).reverse := by
  have hfront := Sorts.merge h hleft.all hright.all (.of_ordered hleft.ordered)
    (.of_ordered hright.ordered)
  have hback := Sorts.merge h.swap hright.reverse.all hleft.reverse.all
    (.of_ordered hright.reverse.ordered) (.of_ordered hleft.reverse.ordered)
  rw [← List.reverse_append] at hback
  refine hback.unique h.swap (fun a ha => ?_) hfront.reverse
  rcases List.mem_append.mp (List.mem_reverse.mp ha) with ha | ha
  · exact hleft.all a ha
  · exact hright.all a ha

theorem mergeStart_reverse_fst (h : Orders before P) (hleft : InOrder before P left)
    (hright : InOrder before P right) (n : Nat) :
    (mergeStart (fun r l => !before r l) n right.reverse left.reverse).1 =
      ((left.merge right fun l r => !before r l).drop (left.length + right.length - n)).reverse := by
  rw [mergeStart_fst, reverse_merge_reverse h hleft hright, List.take_reverse, List.length_merge]

/-- The items that a merge ends with are cut off both runs, too. -/
theorem exists_isCut_mergeStart_reverse (h : Orders before P) {n : Nat}
    (hleft : InOrder before P left) (hright : InOrder before P right)
    (hn : n ≤ left.length + right.length) :
    ∃ i j, (mergeStart (fun r l => !before r l) n right.reverse left.reverse).2 = j ∧ i + j = n ∧
      IsCut before left right (left.length - i) (right.length - j) := by
  obtain ⟨j, i, hcount, hsum, hcut, -⟩ := exists_isCut_mergeStart h.swap hright.reverse
    hleft.reverse (show n ≤ right.reverse.length + left.reverse.length by
      rw [List.length_reverse, List.length_reverse]
      omega)
  exact ⟨i, j, hcount, by omega, hcut.of_reverse⟩

theorem take_one_merge_left {i j : Nat} (hi : i < left.length)
    (h : IsCut before left right (i + 1) j) :
    ((left.drop i).merge (right.drop j) fun l r => !before r l).take 1 = (left.drop i).take 1 := by
  rw [List.drop_eq_getElem_cons hi]
  cases hright : right.drop j with
  | nil => rw [List.merge_right]
  | cons b rest =>
    have hba := h.low left[i] (List.mem_take_iff_getElem.mpr ⟨i, by omega, rfl⟩) b
      (hright ▸ List.mem_cons_self)
    rw [List.cons_merge_cons, hba]
    rfl

theorem take_one_merge_right {i j : Nat} (hj : j < right.length)
    (h : IsCut before left right i (j + 1)) :
    ((left.drop i).merge (right.drop j) fun l r => !before r l).take 1 = (right.drop j).take 1 := by
  rw [List.drop_eq_getElem_cons hj]
  cases hleft : left.drop i with
  | nil => rw [List.nil_merge]
  | cons a rest =>
    have hba := h.high right[j] (List.mem_take_iff_getElem.mpr ⟨j, by omega, rfl⟩) a
      (hleft ▸ List.mem_cons_self)
    rw [List.cons_merge_cons, hba]
    rfl

/-- A merge from both ends is the merge. -/
theorem mergeEnds_eq_merge (h : Orders before P) (hleft : InOrder before P left)
    (hright : InOrder before P right)
    (hlength : right.length = left.length ∨ right.length = left.length + 1) :
    mergeEnds before left right = some (left.merge right fun l r => !before r l) := by
  obtain ⟨i, j, hcount, hsum, hcut, hdrop⟩ := exists_isCut_mergeStart h hleft hright
    (Nat.le_add_right left.length right.length)
  obtain ⟨i', j', hcount', hsum', hmeets⟩ := exists_isCut_mergeStart_reverse h hleft hright
    (Nat.le_add_right left.length right.length)
  have hi' : left.length - i' = j' := by omega
  rw [hi'] at hmeets
  have hj' := hmeets.le_right
  have hfront := mergeStart_fst (fun l r => !before r l) left.length left right
  have hback := mergeStart_reverse_fst h hleft hright left.length
  rw [Nat.add_sub_cancel_left] at hback
  simp only [mergeEnds, hfront, hback, hcount, hcount', List.reverse_reverse]
  generalize (left.merge right fun l r => !before r l) = merged at *
  rcases hlength with hlength | hlength
  · have hle := hcut.mono hmeets (by omega)
    have hge := hmeets.mono hcut (by omega)
    have hij : i = j' := by omega
    rw [if_pos hlength, if_pos hij, hlength, List.take_append_drop]
  · have hle := hcut.mono hmeets (by omega)
    have hparts : merged.take left.length ++ (merged.drop left.length).take 1 ++
        merged.drop right.length = merged := by
      rw [← List.take_add, hlength, List.take_append_drop]
    rw [if_neg (by omega)]
    by_cases hlt : i < j'
    · have hij : i + 1 = j' := by omega
      have hj : right.length - j' = j := by omega
      rw [hj, ← hij] at hmeets
      rw [if_pos hlt, if_pos hij, ← take_one_merge_left hmeets.le_left hmeets, ← hdrop, hparts]
    · have hij : i = j' := by omega
      have hj : right.length - j' = j + 1 := by omega
      rw [hj, ← hij] at hmeets
      have hnext : left.length - i = j := by omega
      rw [if_neg hlt, if_pos hij, hnext, ← take_one_merge_right hmeets.le_right hmeets, ← hdrop,
        hparts]

/-! ### Short lists -/

theorem isSort_sortShort (h : Orders before P) : IsSort before P (sortShort before) := by
  intro items hitems
  have hleft : ∀ a ∈ items.take (items.length / 2), P a :=
    fun a ha => hitems a (List.mem_of_mem_take ha)
  have hright : ∀ a ∈ items.drop (items.length / 2), P a :=
    fun a ha => hitems a (List.mem_of_mem_drop ha)
  have hhalf := sorts_sortHalf h (treeLength ≤ items.length) hleft
  have hhalf' := sorts_sortHalf h (treeLength ≤ items.length) hright
  refine ⟨_, mergeEnds_eq_merge h (hhalf.inOrder hleft) (hhalf'.inOrder hright) ?_, ?_⟩
  · rw [hhalf.length_eq, hhalf'.length_eq, List.length_take, List.length_drop]
    omega
  · have hwhole := Sorts.merge h hleft hright hhalf hhalf'
    rwa [List.take_append_drop] at hwhole

end Stencil.Sorting
