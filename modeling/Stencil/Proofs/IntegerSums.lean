import Stencil.Library.Arithmetic
import Stencil.Proofs.WholeArithmetic

/-!
Sums of integers. The sum is the exact total as long as every total on the way fits in 64 bits. Once
one does not, the rest is added up in floating point, even if the total of all items fits again. So
the order of the items matters, unless the total of those that are not negative and the total of the
negative ones both fit.
-/
namespace Stencil

namespace Number

/-- The mathematical total. -/
def total : List Int64 → Int
  | [] => 0
  | n :: ns => n.toInt + total ns

/-- The total of the items that are not negative. -/
def gains (ns : List Int64) : Int := total (ns.filter fun n => 0 ≤ n.toInt)

/-- The total of the negative items. -/
def losses (ns : List Int64) : Int := total (ns.filter fun n => n.toInt < 0)

/-- Whether the start and all totals on the way from it fit. -/
def FitsThroughout (start : Int) (ns : List Int64) : Prop :=
  ∀ front, front <+: ns → Fits (start + total front)

variable {n : Int64} {z : Int} {ms ns : List Int64}

/-! ### Totals -/

theorem total_perm (h : ms.Perm ns) : total ms = total ns := by
  induction h with
  | nil => rfl
  | cons n _ ih => rw [total, total, ih]
  | swap m n ns =>
    simp only [total]
    omega
  | trans _ _ ih ih' => rw [ih, ih']

theorem gains_cons (n : Int64) (ns : List Int64) : gains (n :: ns) = max n.toInt 0 + gains ns := by
  by_cases hn : 0 ≤ n.toInt
  · rw [gains, List.filter_cons_of_pos (by simpa using hn), total, Int.max_eq_left hn]
    rfl
  · rw [gains, List.filter_cons_of_neg (by simpa using hn), Int.max_eq_right (by omega),
      Int.zero_add]
    rfl

theorem losses_cons (n : Int64) (ns : List Int64) :
    losses (n :: ns) = min n.toInt 0 + losses ns := by
  by_cases hn : n.toInt < 0
  · rw [losses, List.filter_cons_of_pos (by simpa using hn), total, Int.min_eq_left (by omega)]
    rfl
  · rw [losses, List.filter_cons_of_neg (by simpa using hn), Int.min_eq_right (by omega),
      Int.zero_add]
    rfl

/-- What some of the items add up to lies between the two totals by sign. -/
theorem total_bounds_of_sublist (h : ms.Sublist ns) :
    losses ns ≤ total ms ∧ total ms ≤ gains ns := by
  induction h with
  | slnil => exact ⟨Int.le_refl 0, Int.le_refl 0⟩
  | cons n _ ih =>
    rw [losses_cons, gains_cons]
    omega
  | cons_cons n _ ih =>
    rw [losses_cons, gains_cons, total]
    omega

theorem perm_filters (ns : List Int64) :
    ((ns.filter fun n => 0 ≤ n.toInt) ++ ns.filter fun n => n.toInt < 0).Perm ns := by
  have hrest : (fun n : Int64 => decide (n.toInt < 0)) = fun n => !decide (0 ≤ n.toInt) := by
    funext n
    rw [← decide_not, decide_eq_decide]
    exact Int.not_le.symm
  rw [hrest]
  exact List.filter_append_perm _ ns

/-- All orders of the items stay in range if the two totals by sign do, and only then: one order
begins with all gains, another with all losses. -/
theorem fitsThroughout_perm_iff (start : Int64) (ns : List Int64) :
    (∀ ms : List Int64, ms.Perm ns → FitsThroughout start.toInt ms) ↔
      Fits (start.toInt + gains ns) ∧ Fits (start.toInt + losses ns) := by
  constructor
  · intro h
    constructor
    · exact h _ (perm_filters ns) _ (List.prefix_append _ _)
    · exact h _ (List.perm_append_comm.trans (perm_filters ns)) _ (List.prefix_append _ _)
  · rintro ⟨hgains, hlosses⟩ ms hperm front hfront
    have hbounds := total_bounds_of_sublist hfront.sublist
    have hsame : gains ms = gains ns ∧ losses ms = losses ns :=
      ⟨total_perm (hperm.filter _), total_perm (hperm.filter _)⟩
    exact ⟨Int.le_trans hlosses.1 (by omega), Int.le_trans (by omega) hgains.2⟩

theorem fitsThroughout_cons_iff :
    FitsThroughout z (n :: ns) ↔ Fits z ∧ FitsThroughout (z + n.toInt) ns := by
  constructor
  · intro h
    refine ⟨by simpa [total] using h [] (List.nil_prefix), ?_⟩
    intro front hfront
    have hall := h (n :: front) (List.cons_prefix_cons.mpr ⟨rfl, hfront⟩)
    rwa [total, ← Int.add_assoc] at hall
  · rintro ⟨hz, hrest⟩ front hfront
    rcases List.prefix_cons_iff.mp hfront with rfl | ⟨rest, rfl, hprefix⟩
    · simpa [total] using hz
    · rw [total, ← Int.add_assoc]
      exact hrest rest hprefix

end Number

namespace Library.Arithmetic

open Number (Fits FitsThroughout total gains losses)

variable {start : Int64} {z : Int} {ns : List Int64}

/-! ### Adding up -/

/-- Two integers add up to their exact sum, or to a float if it does not fit. -/
theorem addNumbers_int (m n : Int64) :
    (Fits (m.toInt + n.toInt) →
      ∃ k : Int64, k.toInt = m.toInt + n.toInt ∧ addNumbers (.int m) (.int n) = .int k) ∧
    (¬ Fits (m.toInt + n.toInt) → ∃ x, addNumbers (.int m) (.int n) = .float x) := by
  constructor
  · intro h
    obtain ⟨k, hk, hsome⟩ := Number.exists_ofInt?_of_fits h
    exact ⟨k, hk, by rw [addNumbers, hsome]; rfl⟩
  · intro h
    exact ⟨_, by rw [addNumbers, Number.ofInt?_of_not_fits h]; rfl⟩

/-- A total that is a float stays one. -/
theorem foldlM_addItem_float (x : Float) (ns : List Int64) :
    ∃ y, (ns.map Value.int).foldlM addItem (.float x) = .ok (.float y) := by
  induction ns generalizing x with
  | nil => exact ⟨x, rfl⟩
  | cons n ns ih =>
    rw [List.map_cons, List.foldlM_cons]
    exact ih _

theorem foldlM_addItem_int (start : Int64) (ns : List Int64) :
    (FitsThroughout start.toInt ns → ∃ k : Int64, k.toInt = start.toInt + total ns ∧
      (ns.map Value.int).foldlM addItem (.int start) = .ok (.int k)) ∧
    (¬ FitsThroughout start.toInt ns → ∃ x,
      (ns.map Value.int).foldlM addItem (.int start) = .ok (.float x)) := by
  induction ns generalizing start with
  | nil =>
    refine ⟨fun _ => ⟨start, (Int.add_zero _).symm, rfl⟩, fun h => absurd ?_ h⟩
    intro front hfront
    rw [List.prefix_nil.mp hfront]
    simpa [total] using Number.fits_toInt start
  | cons n ns ih =>
    have hstart : Fits start.toInt := Number.fits_toInt start
    have hstep (t : Number) (h : addNumbers (.int start) (.int n) = t) :
        ((n :: ns).map Value.int).foldlM addItem (.int start) =
          (ns.map Value.int).foldlM addItem t := by
      rw [List.map_cons, List.foldlM_cons, ← h]
      rfl
    by_cases hfits : Fits (start.toInt + n.toInt)
    · obtain ⟨k, hk, hsum⟩ := (addNumbers_int start n).1 hfits
      rw [hstep _ hsum, Number.fitsThroughout_cons_iff, total, ← Int.add_assoc, ← hk]
      obtain ⟨hexact, hfloat⟩ := ih k
      exact ⟨fun h => hexact h.2, fun h => hfloat fun hrest => h ⟨hstart, hrest⟩⟩
    · obtain ⟨x, hsum⟩ := (addNumbers_int start n).2 hfits
      rw [hstep _ hsum, Number.fitsThroughout_cons_iff]
      refine ⟨fun h => absurd ?_ hfits, fun _ => foldlM_addItem_float x ns⟩
      simpa [total] using h.2 [] List.nil_prefix

/-- The sum of the items from the start is the integer `z`. -/
def SumIs (start : Int64) (ns : List Int64) (z : Int) : Prop :=
  ∃ k : Int64, k.toInt = z ∧ sum [.seq (ns.map .int), .int start] = .ok (.int k)

theorem sum_integers_eq (start : Int64) (ns : List Int64) :
    sum [.seq (ns.map .int), .int start] =
      ((ns.map Value.int).foldlM addItem (.int start)).map .number := by
  show (do return Value.number (← (ns.map Value.int).foldlM addItem (.int start))) = _
  cases (ns.map Value.int).foldlM addItem (.int start) <;> rfl

theorem sumIs_of_fitsThroughout (h : FitsThroughout start.toInt ns) :
    SumIs start ns (start.toInt + total ns) := by
  obtain ⟨k, hk, hsum⟩ := (foldlM_addItem_int start ns).1 h
  exact ⟨k, hk, by rw [sum_integers_eq, hsum]; rfl⟩

theorem sum_eq_float_of_not_fitsThroughout (h : ¬ FitsThroughout start.toInt ns) :
    ∃ x, sum [.seq (ns.map .int), .int start] = .ok (.float x) := by
  obtain ⟨x, hsum⟩ := (foldlM_addItem_int start ns).2 h
  exact ⟨x, by rw [sum_integers_eq, hsum]; rfl⟩

theorem sumIs_iff : SumIs start ns (start.toInt + total ns) ↔ FitsThroughout start.toInt ns := by
  refine ⟨fun h => Classical.byContradiction fun hnot => ?_, sumIs_of_fitsThroughout⟩
  obtain ⟨k, -, hint⟩ := h
  obtain ⟨x, hfloat⟩ := sum_eq_float_of_not_fitsThroughout hnot
  rw [hint] at hfloat
  cases hfloat

/-- A sum of integers is the exact total if every total on the way fits, and a float otherwise. It
is the exact total in every order of the items if the totals of the gains and of the losses fit,
and only then. -/
theorem sum_integers_iff (start : Int64) (ns : List Int64) :
    (SumIs start ns (start.toInt + total ns) ↔ FitsThroughout start.toInt ns) ∧
      (FitsThroughout start.toInt ns ∨
        ∃ x, sum [.seq (ns.map .int), .int start] = .ok (.float x)) ∧
      ((∀ ms, ms.Perm ns → SumIs start ms (start.toInt + total ns)) ↔
        Fits (start.toInt + gains ns) ∧ Fits (start.toInt + losses ns)) ∧
      sum [.seq (ns.map .int)] = sum [.seq (ns.map .int), .int 0] := by
  refine ⟨sumIs_iff, ?_, ?_, rfl⟩
  · rcases Classical.em (FitsThroughout start.toInt ns) with h | h
    · exact .inl h
    · exact .inr (sum_eq_float_of_not_fitsThroughout h)
  · rw [← Number.fitsThroughout_perm_iff]
    apply forall_congr'
    intro ms
    apply imp_congr_right
    intro hperm
    rw [← Number.total_perm hperm, sumIs_iff]

/-- From the greatest integer, the loss has to come first. -/
theorem sum_integers_iff_lossFirst :
    SumIs Int64.maxValue [-1, 1] Int64.maxValue.toInt ∧
      ¬ ∀ ms, ms.Perm [-1, 1] → SumIs Int64.maxValue ms Int64.maxValue.toInt := by
  obtain ⟨hexact, -, horders, -⟩ := sum_integers_iff Int64.maxValue [-1, 1]
  constructor
  · apply hexact.mpr
    rw [Number.fitsThroughout_cons_iff, Number.fitsThroughout_cons_iff]
    refine ⟨by decide, by decide, ?_⟩
    intro front hfront
    rw [List.prefix_nil.mp hfront]
    decide
  · intro h
    exact absurd (horders.mp h).1 (by decide)

/-- The total fits, but not the total of the first two items, so the sum is a float. -/
theorem sum_integers_ne :
    Fits ((0 : Int64).toInt + total [Int64.maxValue, 1, -1]) ∧
      ¬ SumIs 0 [Int64.maxValue, 1, -1] ((0 : Int64).toInt + total [Int64.maxValue, 1, -1]) := by
  refine ⟨by decide, fun h => ?_⟩
  have hfits := sumIs_iff.mp h [Int64.maxValue, 1] ⟨[-1], rfl⟩
  exact absurd hfits (by decide)

end Library.Arithmetic

end Stencil
