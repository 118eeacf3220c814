import Stencil.Proofs.MergedRuns
import Mathlib.Data.List.Forall2

/-!
Sorting by runs. The runs of a list stand for parts of it that make up the whole. Joining runs joins
the parts, in whatever order the runs are joined, so the last one stands for the list.
-/
namespace Stencil.Sorting

variable {α : Type} {before : α → α → Bool} {P : α → Prop} {a b v : α} {items items' : List α}
  {atOnce : Bool} {run left right : Run α} {finish : List α → Option (List α)}

/-- The part of a list that a run stands for: its items were sorted, or wait to be. -/
inductive Run.StandsFor (before : α → α → Bool) (P : α → Prop) (atOnce : Bool) :
    List α → Run α → Prop
  | sorted {items sorted : List α} (all : ∀ a ∈ items, P a) (sorts : Sorts before P items sorted) :
      StandsFor before P atOnce items ⟨sorted, true⟩
  | waiting {items : List α} (all : ∀ a ∈ items, P a) (later : atOnce = false) :
      StandsFor before P atOnce items ⟨items, false⟩

theorem Run.StandsFor.length_eq (h : run.StandsFor before P atOnce items) :
    run.items.length = items.length := by
  cases h with
  | sorted all sorts => exact sorts.length_eq
  | waiting all later => rfl

/-! ### Finding runs -/

theorem pairwise_take_chainLength (fits : α → α → Bool)
    (htrans : ∀ {a b c}, P a → P b → P c → fits a b = true → fits b c = true → fits a c = true)
    (hv : P v) (hitems : ∀ a ∈ items, P a) :
    (v :: items.take (chainLength fits v items)).Pairwise fun a b => fits a b = true := by
  induction items generalizing v with
  | nil => exact List.pairwise_singleton _ _
  | cons w rest ih =>
    obtain ⟨hw, hrest⟩ := List.forall_mem_cons.mp hitems
    rw [chainLength]
    split
    · next hvw =>
      rw [List.take_succ_cons]
      have hlater := ih hw hrest
      refine List.pairwise_cons.mpr ⟨fun x hx => ?_, hlater⟩
      rcases List.mem_cons.mp hx with rfl | hmem
      · exact hvw
      · exact htrans hv hw (hrest x (List.mem_of_mem_take hmem)) hvw
          ((List.pairwise_cons.mp hlater).1 x hmem)
    · exact List.pairwise_singleton _ _

theorem take_two_add_chainLength (fits : α → α → Bool) (hab : fits a b = true) :
    (a :: b :: items).take (2 + chainLength fits b items) =
      a :: (b :: items).take (chainLength fits a (b :: items)) := by
  rw [chainLength, if_pos hab, Nat.add_comm 2, List.take_succ_cons]

/-- The ordered part that a list starts with is sorted, if it is turned around where it descends. -/
theorem sorts_orderedStart (h : Orders before P) (hitems : ∀ a ∈ items, P a) :
    Sorts before P (items.take (orderedStart before items).1)
      (if (orderedStart before items).2 then (items.take (orderedStart before items).1).reverse
        else items.take (orderedStart before items).1) := by
  match items with
  | [] => exact .nil
  | [v] => exact .singleton
  | v :: w :: rest =>
    obtain ⟨hv, hrest⟩ := List.forall_mem_cons.mp hitems
    rw [orderedStart]
    cases hwv : before w v with
    | true =>
      rw [if_pos rfl, if_pos rfl]
      apply Sorts.of_descending h
      · exact fun a ha => hitems a (List.mem_of_mem_take ha)
      · rw [take_two_add_chainLength (fun a b => before b a) hwv]
        exact pairwise_take_chainLength _ (fun ha hb hc hba hcb => h.lt_trans hc hb ha hcb hba)
          hv hrest
    | false =>
      rw [if_neg Bool.false_ne_true, if_neg Bool.false_ne_true]
      apply Sorts.of_ordered
      rw [take_two_add_chainLength (fun a b => !before b a) (congrArg not hwv)]
      have htrans {a b c : α} (ha : P a) (hb : P b) (hc : P c) (hba : (!before b a) = true)
          (hcb : (!before c b) = true) : (!before c a) = true := by
        rw [Bool.not_eq_true'] at *
        exact h.trans ha hb hc hba hcb
      exact (pairwise_take_chainLength (fun a b => !before b a) htrans hv hrest).imp fun hba => by
        rwa [Bool.not_eq_true'] at hba

theorem orderedStart_pos (hne : items ≠ []) : 0 < (orderedStart before items).1 := by
  match items with
  | [] => contradiction
  | [v] => exact Nat.one_pos
  | v :: w :: rest =>
    rw [orderedStart]
    split <;> exact Nat.add_pos_left Nat.two_pos _

theorem exists_firstRun (h : Orders before P) (least : Nat) (atOnce : Bool)
    (hitems : ∀ a ∈ items, P a) (hne : items ≠ []) :
    ∃ run, firstRun before least atOnce items = some run ∧ 0 < run.items.length ∧
      run.StandsFor before P atOnce (items.take run.items.length) := by
  suffices hfirst : ∃ run k, firstRun before least atOnce items = some run ∧ 0 < k ∧
      run.StandsFor before P atOnce (items.take k) by
    obtain ⟨run, k, hrun, hk, hstands⟩ := hfirst
    have hlength := hstands.length_eq
    rw [List.length_take] at hlength
    have hpos := List.length_pos_iff.mpr hne
    refine ⟨run, hrun, by omega, ?_⟩
    rwa [hlength, ← List.take_eq_take_min]
  have hstart := sorts_orderedStart h hitems
  have hpos : 0 < (orderedStart before items).1 := orderedStart_pos hne
  have hpart (k) : ∀ a ∈ items.take k, P a := fun a ha => hitems a (List.mem_of_mem_take ha)
  rw [firstRun]
  generalize orderedStart before items = start at *
  obtain ⟨length, descends⟩ := start
  show ∃ run k, (if least ≤ length then _ else _) = some run ∧ _
  by_cases hleast : least ≤ length
  · rw [if_pos hleast]
    exact ⟨_, length, rfl, hpos, .sorted (hpart length) hstart⟩
  · rw [if_neg hleast]
    cases atOnce with
    | true =>
      obtain ⟨part, hsort, hsorts⟩ := isSort_sortShort h _ (hpart shortLength)
      rw [if_pos rfl, hsort]
      exact ⟨_, shortLength, rfl, by decide, .sorted (hpart shortLength) hsorts⟩
    | false =>
      rw [if_neg Bool.false_ne_true]
      exact ⟨_, least, rfl, by omega, .waiting (hpart least) rfl⟩

/-- The runs of a list stand for parts that make up the list. -/
theorem exists_runs (h : Orders before P) (least : Nat) (atOnce : Bool)
    (hitems : ∀ a ∈ items, P a) :
    ∃ found parts, runs before least atOnce items = some found ∧ parts.flatten = items ∧
      List.Forall₂ (Run.StandsFor before P atOnce) parts found := by
  fun_induction runs before least atOnce items with
  | case1 => exact ⟨[], [], rfl, rfl, .nil⟩
  | case2 v rest hnone =>
    obtain ⟨run, hrun, -⟩ := exists_firstRun h least atOnce hitems (List.cons_ne_nil v rest)
    rw [hnone] at hrun
    contradiction
  | case3 v rest run hrun ih =>
    obtain ⟨run', hrun', hpos, hstands⟩ :=
      exists_firstRun h least atOnce hitems (List.cons_ne_nil v rest)
    obtain rfl : run = run' := Option.some.inj (hrun.symm.trans hrun')
    obtain ⟨found, parts, hfound, hflatten, hstand⟩ :=
      ih fun a ha => hitems a (List.mem_cons_of_mem v (List.mem_of_mem_drop ha))
    rw [hfound]
    refine ⟨run :: found, (v :: rest).take run.items.length :: parts, rfl, ?_,
      .cons hstands hstand⟩
    rw [List.flatten_cons, hflatten]
    obtain ⟨k, hk⟩ := Nat.exists_eq_add_one.mpr hpos
    rw [hk, Nat.add_sub_cancel, List.take_succ_cons, List.cons_append, List.take_append_drop]

/-! ### Joining runs -/

namespace Run.StandsFor

theorem exists_inOrder (hfinish : atOnce = false → IsSort before P finish)
    (h : run.StandsFor before P atOnce items) :
    ∃ sorted, run.inOrder finish = some sorted ∧ Sorts before P items sorted := by
  cases h with
  | sorted all sorts => exact ⟨_, rfl, sorts⟩
  | waiting all later => exact hfinish later items all

theorem all (h : run.StandsFor before P atOnce items) : ∀ a ∈ items, P a := by
  cases h with
  | sorted all sorts => exact all
  | waiting all later => exact all

end Run.StandsFor

/-- Runs that wait stand for parts of a list that follow each other, the nearest one first. -/
def Wait (before : α → α → Bool) (P : α → Prop) (atOnce : Bool) :
    List (List α) → List (Run α × Nat) → Prop :=
  List.Forall₂ fun part waiting => waiting.1.StandsFor before P atOnce part

section

variable (h : Orders before P) (hfinish : atOnce = false → IsSort before P finish)

include h hfinish

theorem exists_joinRuns (hleft : left.StandsFor before P atOnce items)
    (hright : right.StandsFor before P atOnce items') :
    ∃ run, joinRuns before finish left right = some run ∧
      run.StandsFor before P atOnce (items ++ items') := by
  have hall := List.forall_mem_append.mpr ⟨hleft.all, hright.all⟩
  rw [joinRuns]
  split
  · obtain ⟨l, hl, hsorts⟩ := hleft.exists_inOrder hfinish
    obtain ⟨r, hr, hsorts'⟩ := hright.exists_inOrder hfinish
    rw [hl, hr]
    exact ⟨_, rfl, .sorted hall (sorts_mergeRuns h hleft.all hright.all hsorts hsorts')⟩
  · next hnone =>
    cases hleft with
    | sorted => exact absurd rfl hnone
    | waiting all later =>
      cases hright with
      | sorted => exact absurd rfl hnone
      | waiting => exact ⟨_, rfl, .waiting hall later⟩

/-- Joining moves the border between what the waiting runs stand for and what the last one does; with
depth zero it leaves none waiting. -/
theorem exists_joinWaiting (depth : Nat) {parts : List (List α)} {waiting : List (Run α × Nat)}
    (hwaiting : Wait before P atOnce parts waiting) (hrun : run.StandsFor before P atOnce items) :
    ∃ parts' waiting' joined items',
      joinWaiting before finish depth waiting run = some (waiting', joined) ∧
      Wait before P atOnce parts' waiting' ∧ joined.StandsFor before P atOnce items' ∧
      parts'.reverse.flatten ++ items' = parts.reverse.flatten ++ items ∧
      (depth = 0 → parts' = []) := by
  induction hwaiting generalizing run items with
  | nil => exact ⟨[], [], run, items, rfl, .nil, hrun, rfl, fun _ => rfl⟩
  | @cons part first parts waiting hfirst hrest ih =>
    obtain ⟨left, d⟩ := first
    rw [joinWaiting]
    split
    · obtain ⟨joined, hjoined, hstands⟩ := exists_joinRuns h hfinish hfirst hrun
      obtain ⟨parts', waiting', joined', items', hjoin, hwait, hstands', hsame, hnone⟩ := ih hstands
      rw [hjoined]
      refine ⟨parts', waiting', joined', items', hjoin, hwait, hstands', ?_, hnone⟩
      rw [hsame]
      simp
    · next hdepth =>
      refine ⟨_, _, run, items, rfl, .cons hfirst hrest, hrun, rfl, ?_⟩
      rintro rfl
      exact absurd (Nat.zero_le d) hdepth

theorem exists_joinAll (n stop : Nat) {parts parts' : List (List α)}
    {waiting : List (Run α × Nat)} {found : List (Run α)}
    (hwaiting : Wait before P atOnce parts waiting) (hrun : run.StandsFor before P atOnce items)
    (hfound : List.Forall₂ (Run.StandsFor before P atOnce) parts' found) :
    ∃ whole, joinAll before finish n stop waiting run found = some whole ∧
      whole.StandsFor before P atOnce (parts.reverse.flatten ++ items ++ parts'.flatten) := by
  induction hfound generalizing run items parts waiting stop with
  | nil =>
    obtain ⟨parts', waiting', joined, items', hjoin, -, hstands, hsame, hnone⟩ :=
      exists_joinWaiting h hfinish 0 hwaiting hrun
    rw [hnone rfl, List.reverse_nil, List.flatten_nil, List.nil_append] at hsame
    rw [joinAll, hjoin, List.flatten_nil, List.append_nil, ← hsame]
    exact ⟨joined, rfl, hstands⟩
  | @cons part next parts' found hnext hfound ih =>
    rw [joinAll]
    obtain ⟨parts'', waiting', joined, items', hjoin, hwait, hstands, hsame, -⟩ :=
      exists_joinWaiting h hfinish
        (meetingDepth n (stop - run.items.length) stop (stop + next.items.length)) hwaiting hrun
    have hwait' (depth) : Wait before P atOnce (items' :: parts'') ((joined, depth) :: waiting') :=
      .cons hstands hwait
    obtain ⟨whole, hwhole, hstands'⟩ := ih (stop + next.items.length) (hwait' _) hnext
    rw [hjoin]
    refine ⟨whole, hwhole, ?_⟩
    rw [List.reverse_cons, List.flatten_append, List.flatten_singleton, hsame] at hstands'
    rwa [List.flatten_cons, ← List.append_assoc]

/-- Sorting by runs sorts, if what is left for later is sorted then. -/
theorem isSort_sortByRuns : IsSort before P (sortByRuns before finish atOnce) := by
  intro items hitems
  obtain ⟨found, parts, hfound, hflatten, hstand⟩ :=
    exists_runs h (runLength items.length) atOnce hitems
  rw [sortByRuns, hfound]
  cases hstand with
  | nil =>
    rw [← hflatten]
    exact ⟨[], rfl, .nil⟩
  | @cons part run parts found hrun hrest =>
    obtain ⟨whole, hwhole, hstands⟩ :=
      exists_joinAll h hfinish items.length run.items.length .nil hrun hrest
    rw [List.reverse_nil, List.flatten_nil, List.nil_append, ← List.flatten_cons,
      hflatten] at hstands
    obtain ⟨sorted, hsorted, hsorts⟩ := hstands.exists_inOrder hfinish
    refine ⟨sorted, ?_, hsorts⟩
    show (joinAll before finish items.length run.items.length [] run found).bind _ = _
    rw [hwhole]
    exact hsorted

end

end Stencil.Sorting
