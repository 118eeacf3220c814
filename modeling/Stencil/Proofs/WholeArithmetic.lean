import Stencil.Expr.Operation

/-!
Arithmetic of numbers. Sums, differences, products, remainders and negatives of integers are exact
where the result fits in 64 bits and floating-point numbers where it does not, except for the one
remainder whose quotient does not fit. The only failure is a division by zero.
-/
namespace Stencil

namespace Number

open Decimal

variable {z : Int}

/-- Whether a whole number is one of the 64-bit integers. -/
def Fits (z : Int) : Prop := Int64.minValue.toInt ≤ z ∧ z ≤ Int64.maxValue.toInt

instance : Decidable (Fits z) := inferInstanceAs (Decidable (_ ∧ _))

theorem fits_toInt (n : Int64) : Fits n.toInt := ⟨n.minValue_le_toInt, n.toInt_le⟩

theorem exists_ofInt?_of_fits (h : Fits z) :
    ∃ n : Int64, n.toInt = z ∧ ofInt? z = some (.int n) := by
  have hlow : -2 ^ 63 ≤ z := h.1
  have hhigh : z ≤ 2 ^ 63 - 1 := h.2
  exact ⟨Int64.ofInt z, Int64.toInt_ofInt_of_le hlow (by omega), if_pos h⟩

theorem ofInt?_of_not_fits (h : ¬Fits z) : ofInt? z = none := if_neg h

/-! ### Zeros -/

/-- Two floats are in the place of zero, one for each sign. -/
theorem orderKey_eq_zero_iff (x : Float) : orderKey x = some 0 ↔ x = 0.0 ∨ x = -0.0 := by
  have hpositive : (0.0 : Float).toBits.toNat = 0 := rfl
  have hnegative : (-0.0 : Float).toBits.toNat = 2 ^ 63 := by decide
  constructor
  · -- `==` cannot be used here, since it does not tell the two zeros apart
    have hinjective {y : Float} (h : x.toBits.toNat = y.toBits.toNat) : x = y := by
      obtain ⟨⟨bits, hx⟩⟩ := x
      obtain ⟨⟨bits', hy⟩⟩ := y
      have hbits : bits = bits' := UInt64.toNat_inj.mp h
      subst hbits
      rfl
    intro h
    have hlt : x.toBits.toNat < 2 ^ 64 := x.toBits.toNat_lt
    have hbits : x.toBits.toNat = 0 ∨ x.toBits.toNat = 2 ^ 63 := by
      have hpow : Nat.pow 2 63 = 2 ^ 63 := rfl
      simp only [orderKey, hpow] at h
      split at h
      · cases h
      · split at h
        · have hzero := Option.some.inj h
          omega
        · have hzero := Option.some.inj h
          omega
    rcases hbits with hbits | hbits
    · left
      exact hinjective (hbits.trans hpositive.symm)
    · right
      exact hinjective (hbits.trans hnegative.symm)
  · rintro (rfl | rfl)
    · rfl
    · decide

theorem isZero_iff (b : Number) :
    b.isZero = true ↔ b = .int 0 ∨ b = .float 0.0 ∨ b = .float (-0.0) := by
  cases b with
  | int n => simp [isZero]
  | float x => simp [isZero, orderKey_eq_zero_iff]

end Number

namespace Expr

open Number (Fits)

variable {x y : Int64} {z : Int} {op : BinaryOp}

/-- What an operation yields whose exact result is `z`: that integer if it is one, and otherwise a
floating-point number. -/
structure Exact (z : Int) (result : Except EvalError Value) : Prop where
  of_fits : Fits z → ∃ n : Int64, n.toInt = z ∧ result = .ok (.int n)
  of_not_fits : ¬Fits z → ∃ x : Float, result = .ok (.float x)

theorem exact_getD (z : Int) (fallback : Float) :
    Exact z (.ok (.number ((Number.ofInt? z).getD (.float fallback)))) where
  of_fits h := by
    obtain ⟨n, hn, hsome⟩ := Number.exists_ofInt?_of_fits h
    exact ⟨n, hn, by rw [hsome]; rfl⟩
  of_not_fits h := by
    refine ⟨fallback, ?_⟩
    rw [Number.ofInt?_of_not_fits h]
    rfl

namespace BinaryOp

theorem overflowsRem_iff :
    overflowsRem x.toInt y.toInt = true ↔ x = Int64.minValue ∧ y = -1 := by
  have hneg : (-1 : Int64).toInt = -1 := rfl
  rw [overflowsRem, Bool.and_eq_true, beq_iff_eq, beq_iff_eq, Int64.toInt_inj, ← hneg,
    Int64.toInt_inj]

/-- An operator with a whole result yields it unless it has to give up. -/
theorem exact_arithmetic (hwhole : op.whole? x.toInt y.toInt = some z)
    (hdivisor : (op.divides && (Number.int y).isZero) = false)
    (hquotient : (op == .rem && overflowsRem x.toInt y.toInt) = false) :
    Exact z ((op.arithmetic (.int x) (.int y)).map .number) := by
  simp only [arithmetic, hdivisor, hquotient, hwhole, Bool.false_eq_true, if_false]
  exact exact_getD z _

theorem exact_add (x y : Int64) : Exact (x.toInt + y.toInt) (add.apply (.int x) (.int y)) := by
  have hwhole : add.whole? x.toInt y.toInt = some (x.toInt + y.toInt) := rfl
  exact exact_arithmetic hwhole rfl rfl

theorem exact_sub (x y : Int64) : Exact (x.toInt - y.toInt) (sub.apply (.int x) (.int y)) := by
  have hwhole : sub.whole? x.toInt y.toInt = some (x.toInt - y.toInt) := rfl
  exact exact_arithmetic hwhole rfl rfl

theorem exact_mul (x y : Int64) : Exact (x.toInt * y.toInt) (mul.apply (.int x) (.int y)) := by
  have hwhole : mul.whole? x.toInt y.toInt = some (x.toInt * y.toInt) := rfl
  exact exact_arithmetic hwhole rfl rfl

theorem exact_rem (hy : y ≠ 0) (hquotient : ¬(x = Int64.minValue ∧ y = -1)) :
    Exact (x.toInt.tmod y.toInt) (rem.apply (.int x) (.int y)) := by
  apply exact_arithmetic
  · rfl
  · simpa [divides, Number.isZero] using hy
  · rw [beq_self_eq_true, Bool.true_and, ← Bool.not_eq_true, overflowsRem_iff]
    exact hquotient

/-- The quotient does not fit, so the remainder, which is zero, is not taken among the integers. -/
theorem rem_minValue :
    rem.apply (.int Int64.minValue) (.int (-1)) =
      .ok (.float (Decimal.remainder (Number.toFloat (.int Int64.minValue))
        (Number.toFloat (.int (-1))))) := by
  have hoverflows : overflowsRem Int64.minValue.toInt (-1 : Int64).toInt = true :=
    overflowsRem_iff.mpr ⟨rfl, rfl⟩
  have hdivisor : (rem.divides && (Number.int (-1)).isZero) = false := rfl
  show (arithmetic .rem (.int Int64.minValue) (.int (-1))).map Value.number = _
  simp only [arithmetic, hdivisor, Bool.false_eq_true, if_false, beq_self_eq_true, hoverflows,
    Bool.and_self, if_true]
  rfl

theorem not_exact_of_rem_minValue :
    ¬Exact (Int64.minValue.toInt.tmod (-1 : Int64).toInt)
      (rem.apply (.int Int64.minValue) (.int (-1))) := by
  intro h
  have hfits : Fits (Int64.minValue.toInt.tmod (-1 : Int64).toInt) := by
    constructor <;> decide
  obtain ⟨n, -, hint⟩ := h.of_fits hfits
  rw [rem_minValue] at hint
  cases hint

/-! ### Failures -/

theorem arithmetic_eq_error_iff (op : BinaryOp) (a b : Number) (e : EvalError) :
    op.arithmetic a b = .error e ↔
      op.divides = true ∧ b.isZero = true ∧ e = .divisionByZero := by
  rw [← and_assoc, ← Bool.and_eq_true]
  by_cases h : (op.divides && b.isZero) = true
  · rw [arithmetic, if_pos h, Except.error.injEq]
    constructor
    · intro he
      exact ⟨h, he.symm⟩
    · intro he
      exact he.2.symm
  · constructor
    · intro herror
      rw [arithmetic, if_neg h] at herror
      dsimp only at herror
      split at herror
      · split at herror
        · cases herror
        · cases herror
      · cases herror
    · intro he
      exact absurd he.1 h

theorem map_number_eq_error_iff (result : Except EvalError Number) (e : EvalError) :
    result.map Value.number = .error e ↔ result = .error e := by
  cases result with
  | error e' => simp [Except.map]
  | ok n => simp [Except.map]

/-- Two numbers have a sum, a difference and a product, and they have a quotient and a remainder
unless the divisor is zero. -/
theorem apply_eq_error_iff (hop : op ∈ [add, sub, mul, div, rem]) (a b : Number) (e : EvalError) :
    op.apply (.number a) (.number b) = .error e ↔
      (op = div ∨ op = rem) ∧ b.isZero = true ∧ e = .divisionByZero := by
  have hdivides : op.divides = true ↔ op = div ∨ op = rem := by
    cases op <;> simp [divides]
  have happly : op.apply (.number a) (.number b) = (op.arithmetic a b).map Value.number := by
    simp only [List.mem_cons, List.not_mem_nil, or_false] at hop
    rcases hop with rfl | rfl | rfl | rfl | rfl <;> rfl
  rw [happly, map_number_eq_error_iff, arithmetic_eq_error_iff, hdivides]

end BinaryOp

namespace UnaryOp

theorem exact_neg (x : Int64) : Exact (-x.toInt) (neg.apply (.int x)) := exact_getD _ _

theorem neg_ne_error (a : Number) (e : EvalError) : neg.apply (.number a) ≠ .error e := by
  intro herror
  cases a with
  | int n => cases herror
  | float x => cases herror

end UnaryOp

/-! ### All operators -/

/-- Integer operators neither wrap nor lose exactness, except for the remainder of the smallest
integer and minus one, and numbers fail them only by a division by zero. -/
theorem apply_exact_and_total (x y : Int64) (a b : Number) :
    Exact (x.toInt + y.toInt) (BinaryOp.add.apply (.int x) (.int y)) ∧
      Exact (x.toInt - y.toInt) (BinaryOp.sub.apply (.int x) (.int y)) ∧
      Exact (x.toInt * y.toInt) (BinaryOp.mul.apply (.int x) (.int y)) ∧
      Exact (-x.toInt) (UnaryOp.neg.apply (.int x)) ∧
      (y ≠ 0 →
        (Exact (x.toInt.tmod y.toInt) (BinaryOp.rem.apply (.int x) (.int y)) ↔
          ¬(x = Int64.minValue ∧ y = -1))) ∧
      (∀ op ∈ [BinaryOp.add, .sub, .mul, .div, .rem], ∀ e,
        op.apply (.number a) (.number b) = .error e ↔
          (op = .div ∨ op = .rem) ∧ (b = .int 0 ∨ b = .float 0.0 ∨ b = .float (-0.0)) ∧
            e = .divisionByZero) ∧
      ∀ e, UnaryOp.neg.apply (.number a) ≠ .error e := by
  have hrem (hy : y ≠ 0) :
      Exact (x.toInt.tmod y.toInt) (BinaryOp.rem.apply (.int x) (.int y)) ↔
        ¬(x = Int64.minValue ∧ y = -1) := by
    constructor
    · rintro hexact ⟨rfl, rfl⟩
      exact BinaryOp.not_exact_of_rem_minValue hexact
    · exact BinaryOp.exact_rem hy
  refine ⟨BinaryOp.exact_add x y, BinaryOp.exact_sub x y, BinaryOp.exact_mul x y,
    UnaryOp.exact_neg x, hrem, ?_, UnaryOp.neg_ne_error a⟩
  intro op hop e
  rw [BinaryOp.apply_eq_error_iff hop, Number.isZero_iff]

theorem apply_exact_and_total_seven :
    (3 : Int64) ≠ 0 ∧ BinaryOp.div ∈ [BinaryOp.add, .sub, .mul, .div, .rem] ∧
      Exact 1 (BinaryOp.rem.apply (.int 7) (.int 3)) ∧
      BinaryOp.div.apply (.int 7) (.int 0) = .error .divisionByZero := by
  have hy : (3 : Int64) ≠ 0 := by decide
  have hop : BinaryOp.div ∈ [BinaryOp.add, .sub, .mul, .div, .rem] := by decide
  obtain ⟨-, -, -, -, hrem, hfail, -⟩ := apply_exact_and_total 7 3 (.int 7) (.int 0)
  refine ⟨hy, hop, (hrem hy).mpr ?_, (hfail .div hop _).mpr ⟨Or.inl rfl, Or.inl rfl, rfl⟩⟩
  rintro ⟨-, hneg⟩
  cases hneg

/-- The exact remainder is zero, but it does not come out as an integer. -/
theorem rem_minValue_ne_zero :
    Fits (Int64.minValue.toInt.tmod (-1 : Int64).toInt) ∧
      BinaryOp.rem.apply (.int Int64.minValue) (.int (-1)) ≠ .ok (.int 0) := by
  constructor
  · constructor <;> decide
  · intro hzero
    rw [BinaryOp.rem_minValue] at hzero
    cases hzero

end Expr

end Stencil
