import Stencil.Library.Sequence
import Stencil.Proofs.WholeArithmetic

/-!
Arithmetic progressions between 64-bit integers. The terms are those of the progression of whole
numbers: a term that does not fit in 64 bits lies past the end, so that the loop loses none when it
stops there. Only progressions of too many terms are refused.
-/
namespace Stencil.Library.Sequence

open Number (Fits)

/-- Whether a whole number lies before `stop` in the direction of a step, or perhaps at it. -/
def LiesBefore (stop step : Int) (inclusive : Bool) (n : Int) : Prop :=
  if 0 < step then if inclusive then n ≤ stop else n < stop
  else if inclusive then stop ≤ n else stop < n

/-- The whole numbers `start`, `start + step`, `start + 2 * step` and so on, as long as they lie
before `stop`. -/
structure IsProgression (start stop step : Int) (inclusive : Bool) (terms : List Int) : Prop where
  eq_map : terms = (List.range terms.length).map fun (k : Nat) => start + k * step
  lt_length_iff : ∀ k : Nat,
    k < terms.length ↔ LiesBefore stop step inclusive (start + k * step)

variable {inclusive : Bool}

section Whole

variable {stop step n : Int} {terms : List Int}

/-- Terms go away from the start and do not come back. -/
theorem LiesBefore.of_later {k : Nat} (h : LiesBefore stop step inclusive (n + k * step)) :
    LiesBefore stop step inclusive n := by
  have hk : (0 : Int) ≤ k := Int.natCast_nonneg k
  by_cases hstep : 0 < step
  · have hforward : 0 ≤ k * step := Int.mul_nonneg hk (Int.le_of_lt hstep)
    rw [LiesBefore, if_pos hstep] at h ⊢
    cases inclusive with
    | false =>
      have hlater : n + k * step < stop := h
      show n < stop
      omega
    | true =>
      have hlater : n + k * step ≤ stop := h
      show n ≤ stop
      omega
  · have hback : k * step ≤ 0 := Int.mul_nonpos_of_nonneg_of_nonpos hk (by omega)
    rw [LiesBefore, if_neg hstep] at h ⊢
    cases inclusive with
    | false =>
      have hlater : stop < n + k * step := h
      show stop < n
      omega
    | true =>
      have hlater : stop ≤ n + k * step := h
      show stop ≤ n
      omega

theorem isProgression_nil (h : ¬LiesBefore stop step inclusive n) :
    IsProgression n stop step inclusive [] where
  eq_map := rfl
  lt_length_iff k := by
    constructor
    · intro hk
      exact absurd hk (Nat.not_lt_zero k)
    · intro hk
      exact absurd hk.of_later h

theorem term_succ (n step : Int) (k : Nat) : n + (k + 1 : Nat) * step = n + step + k * step := by
  rw [Int.natCast_add, Int.add_mul]
  omega

theorem isProgression_cons (h : LiesBefore stop step inclusive n)
    (hrest : IsProgression (n + step) stop step inclusive terms) :
    IsProgression n stop step inclusive (n :: terms) where
  eq_map := by
    rw [List.length_cons, List.range_succ_eq_map, List.map_cons, List.map_map]
    refine List.cons_eq_cons.mpr ⟨by simp, hrest.eq_map.trans ?_⟩
    exact List.map_congr_left fun k _ => (term_succ n step k).symm
  lt_length_iff k := by
    cases k with
    | zero => simpa using h
    | succ k =>
      rw [term_succ, ← hrest.lt_length_iff, List.length_cons]
      exact Nat.add_lt_add_iff_right

end Whole

/-! ### 64-bit integers -/

variable {start stop step n next : Int64}

theorem goesOn_iff :
    goesOn stop step inclusive n = true ↔
      LiesBefore stop.toInt step.toInt inclusive n.toInt := by
  have hstep : 0 < step ↔ 0 < step.toInt := Int64.lt_iff_toInt_lt
  unfold goesOn LiesBefore
  by_cases h : 0 < step
  · rw [decide_eq_true h, if_pos (hstep.mp h)]
    cases inclusive <;> simp [Int64.lt_iff_toInt_lt, Int64.le_iff_toInt_le]
  · rw [decide_eq_false h, if_neg (mt hstep.mpr h)]
    cases inclusive <;> simp [Int64.lt_iff_toInt_lt, Int64.le_iff_toInt_le]

/-- Where a term is left out because it does not fit, it is past the end. -/
theorem fits_of_liesBefore
    (h : LiesBefore stop.toInt step.toInt inclusive (n.toInt + step.toInt)) :
    Fits (n.toInt + step.toInt) := by
  have hn := Number.fits_toInt n
  have hstop := Number.fits_toInt stop
  unfold LiesBefore at h
  unfold Fits at *
  split at h <;> split at h <;> omega

theorem nextTerm?_of_fits (h : Fits (n.toInt + step.toInt)) :
    ∃ next, nextTerm? step n = some next ∧ next.toInt = n.toInt + step.toInt := by
  have hlow : -2 ^ 63 ≤ n.toInt + step.toInt := h.1
  have hhigh : n.toInt + step.toInt ≤ 2 ^ 63 - 1 := h.2
  exact ⟨_, if_pos h, Int64.toInt_ofInt_of_le hlow (by omega)⟩

theorem nextTerm?_of_not_fits (h : ¬Fits (n.toInt + step.toInt)) : nextTerm? step n = none :=
  if_neg h

/-! ### The loop -/

/-- A loop adds these terms to those found if there is room for them, and complains otherwise. -/
def Adds (loop : Nat → List Int64 → Except HelperError (List Int64)) (terms : List Int64) : Prop :=
  ∀ room found, loop room found =
    if terms.length ≤ room then .ok (found.reverse ++ terms) else complain .rangeTooLarge

theorem adds_nil (h : ¬LiesBefore stop.toInt step.toInt inclusive n.toInt) :
    Adds (termsFrom stop step inclusive · · n) [] := by
  intro room found
  have hpast : ¬goesOn stop step inclusive n = true := mt goesOn_iff.mp h
  show termsFrom stop step inclusive room found n =
    if 0 ≤ room then .ok (found.reverse ++ []) else _
  rw [if_pos (Nat.zero_le room), List.append_nil]
  cases room <;> rw [termsFrom, if_neg hpast]

/-- One round of the loop. -/
theorem adds_cons {rest : List Int64} (h : LiesBefore stop.toInt step.toInt inclusive n.toInt)
    (hrest : ∀ next, nextTerm? step n = some next →
      Adds (termsFrom stop step inclusive · · next) rest)
    (hlast : nextTerm? step n = none → rest = []) :
    Adds (termsFrom stop step inclusive · · n) (n :: rest) := by
  intro room found
  show termsFrom stop step inclusive room found n = _
  cases room with
  | zero =>
    rw [termsFrom, if_pos (goesOn_iff.mpr h)]
    rfl
  | succ room =>
    rw [termsFrom, if_pos (goesOn_iff.mpr h)]
    have hlength : (n :: rest).length ≤ room + 1 ↔ rest.length ≤ room := Nat.add_le_add_iff_right
    have hfound : found.reverse ++ n :: rest = (n :: found).reverse ++ rest := by simp
    rw [hfound]
    simp only [hlength]
    cases hnext : nextTerm? step n with
    | some next => exact hrest next hnext room (n :: found)
    | none =>
      rw [hlast hnext, List.append_nil]
      exact (if_pos (Nat.zero_le room)).symm

/-- How far it is from a term to the end, in the direction of the step. -/
def distance (stop step n : Int) : Nat := (if 0 < step then stop - n else n - stop).toNat

theorem distance_lt (hstep : step ≠ 0) (h : n.toInt + step.toInt = next.toInt)
    (hnext : LiesBefore stop.toInt step.toInt inclusive next.toInt) :
    distance stop.toInt step.toInt next.toInt < distance stop.toInt step.toInt n.toInt := by
  have hzero : step.toInt ≠ 0 := fun h => hstep (Int64.toInt_inj.mp h)
  unfold LiesBefore at hnext
  unfold distance
  split at hnext <;> split at hnext <;> simp only [*, if_true, if_false] <;> omega

/-- The loop adds the terms of the progression of whole numbers, which are 64-bit integers. -/
theorem exists_isProgression_adds (hstep : step ≠ 0) (n : Int64) :
    ∃ terms : List Int64,
      IsProgression n.toInt stop.toInt step.toInt inclusive (terms.map Int64.toInt) ∧
        Adds (termsFrom stop step inclusive · · n) terms := by
  induction hd : distance stop.toInt step.toInt n.toInt using Nat.strongRecOn generalizing n with
  | _ d ih =>
    by_cases h : LiesBefore stop.toInt step.toInt inclusive n.toInt
    · by_cases hlater : LiesBefore stop.toInt step.toInt inclusive (n.toInt + step.toInt)
      · obtain ⟨next, hnext, hint⟩ := nextTerm?_of_fits (fits_of_liesBefore hlater)
        rw [← hint] at hlater
        obtain ⟨rest, hrest, hadds⟩ :=
          ih _ (hd ▸ distance_lt hstep hint.symm hlater) next rfl
        refine ⟨n :: rest, isProgression_cons h (hint ▸ hrest), adds_cons h ?_ ?_⟩
        · intro next' hnext'
          rw [hnext] at hnext'
          obtain rfl := Option.some.inj hnext'
          exact hadds
        · intro hnone
          rw [hnext] at hnone
          contradiction
      · refine ⟨[n], isProgression_cons h (isProgression_nil hlater), adds_cons h ?_ fun _ => rfl⟩
        intro next hnext
        apply adds_nil
        by_cases hfits : Fits (n.toInt + step.toInt)
        · obtain ⟨next', hnext', hint⟩ := nextTerm?_of_fits hfits
          rw [hnext] at hnext'
          obtain rfl := Option.some.inj hnext'
          rwa [hint]
        · rw [nextTerm?_of_not_fits hfits] at hnext
          contradiction
    · exact ⟨[], isProgression_nil h, adds_nil h⟩

theorem exists_progression_eq (hstep : step ≠ 0) (start stop : Int64) (inclusive : Bool) :
    ∃ terms : List Int64,
      IsProgression start.toInt stop.toInt step.toInt inclusive (terms.map Int64.toInt) ∧
        progression start stop step inclusive =
          if terms.length ≤ sizeLimit then .ok (.seq (terms.map .int))
          else complain .rangeTooLarge := by
  obtain ⟨terms, hterms, hadds⟩ := exists_isProgression_adds hstep start
  refine ⟨terms, hterms, ?_⟩
  have hloop : termsFrom stop step inclusive sizeLimit [] start = _ := hadds sizeLimit []
  rw [progression, if_neg (by simpa using hstep), hloop]
  split <;> rfl

/-- A range has the terms before its end and a sequence those not past it, all of them and exactly as
among whole numbers. They fail with more than 100000 terms, and with a step of zero. -/
theorem range_and_sequence_terms (start stop step : Int64) :
    (step ≠ 0 →
      (∃ terms : List Int64,
        IsProgression start.toInt stop.toInt step.toInt false (terms.map Int64.toInt) ∧
          range [.int start, .int stop, .int step] =
            if terms.length ≤ 100000 then .ok (.seq (terms.map .int))
            else .error (.invalidArgument .rangeTooLarge)) ∧
      ∃ terms : List Int64,
        IsProgression start.toInt stop.toInt step.toInt true (terms.map Int64.toInt) ∧
          sequence [.int start, .int stop, .int step] =
            if terms.length ≤ 100000 then .ok (.seq (terms.map .int))
            else .error (.invalidArgument .rangeTooLarge)) ∧
      range [.int start, .int stop, .int 0] = .error (.invalidArgument .zeroStep) ∧
      sequence [.int start, .int stop, .int 0] = .error (.invalidArgument .zeroStep) := by
  refine ⟨fun hstep => ⟨?_, ?_⟩, rfl, rfl⟩
  · exact exists_progression_eq hstep start stop false
  · exact exists_progression_eq hstep start stop true

/-- Next to the greatest integer, a range loses no term where the next one does not fit. -/
theorem range_and_sequence_terms_greatest :
    (3 : Int64) ≠ 0 ∧
      IsProgression 9223372036854775802 9223372036854775807 3 false
        [9223372036854775802, 9223372036854775805] ∧
      range [.int 9223372036854775802, .int 9223372036854775807, .int 3] =
        .ok (.seq [.int 9223372036854775802, .int 9223372036854775805]) := by
  have hstep : (3 : Int64) ≠ 0 := by decide
  obtain ⟨⟨terms, hterms, hrange⟩, -⟩ :=
    (range_and_sequence_terms 9223372036854775802 9223372036854775807 3).1 hstep
  have hvalue : range [.int 9223372036854775802, .int 9223372036854775807, .int 3] =
      .ok (.seq [.int 9223372036854775802, .int 9223372036854775805]) := rfl
  refine ⟨hstep, ?_, hvalue⟩
  rw [hvalue] at hrange
  split at hrange
  · have hlist : terms.map Value.int =
        [9223372036854775802, 9223372036854775805].map Value.int :=
      (Value.seq.inj (Except.ok.inj hrange)).symm
    obtain rfl := (List.map_inj_right fun m n h => Number.int.inj (Value.number.inj h)).mp hlist
    exact hterms
  · contradiction

end Stencil.Library.Sequence
