import Stencil.Proofs.IntegerConversion
import Stencil.Proofs.ShortestDigits

/-!
Arithmetic by name. The helpers that add, subtract, multiply and take remainders compute with
floats, the operators with integers as long as these fit. Both write the same text exactly if the
floats lose nothing that the result needs and the result as a float is written with its own digits.
-/
namespace Stencil.Library

open Number (Fits IsPlain)
open Decimal Stencil.Expr

/-- The helper with the name of an operator. -/
def helperOf? : BinaryOp → Option Builtin
  | .add => some Arithmetic.add
  | .sub => some Arithmetic.subtract
  | .mul => some Arithmetic.multiply
  | .rem => some Arithmetic.modulo
  | _ => none

variable {op : BinaryOp} {helper : Builtin} {x y : Int64} {n r : Int}

/-! ### Helpers -/

/-- A float that is not zero is not taken for zero. -/
theorem beq_zero_eq_false {z : Float} {k : Int} (hz : IsNearest z k) (hk : k ≠ 0) :
    (z == 0.0) = false := by
  obtain ⟨u, hu, rfl⟩ := hz
  have hzero : (0.0 : Float) = .ofModel (Float.Model.pack (.zero .positive)) := by decide
  rw [hzero]
  show ((Float.Model.pack u).unpack.beq (Float.Model.pack (.zero .positive)).unpack) = false
  rw [hu.unpack_pack, (Rounds.zero .positive).unpack_pack]
  cases hu with
  | zero => exact absurd rfl hk
  | @normal s _ _ _ h =>
    obtain ⟨m, e, hpos, rfl, -⟩ := h
    cases s <;> rfl

theorem binary_eq {f : Float → Float → Option Float} {z : Float}
    (h : f (Float.ofInt x.toInt) (Float.ofInt y.toInt) = some z) :
    Arithmetic.binary f [.int x, .int y] = .ok (.number (.ofFloat z)) := by
  have harity : checkArity (.exactly 2) [Value.int x, .int y] = .ok () := rfl
  have hx : numberArg [Value.int x, .int y] 0 = .ok (Float.ofInt x.toInt) := rfl
  have hy : numberArg [Value.int x, .int y] 1 = .ok (Float.ofInt y.toInt) := rfl
  rw [Arithmetic.binary, harity]
  simp only [hx, hy, bind, Except.bind, h]
  rfl

/-- A helper computes what its operator computes with floats. -/
theorem helper_eq_approximate (hhelper : helperOf? op = some helper) (hy : op = .rem → y ≠ 0) :
    helper [.int x, .int y] =
      .ok (.number (.ofFloat (op.approximate (Float.ofInt x.toInt) (Float.ofInt y.toInt)))) := by
  cases op with
  | add =>
    obtain rfl := Option.some.inj hhelper
    exact binary_eq rfl
  | sub =>
    obtain rfl := Option.some.inj hhelper
    exact binary_eq rfl
  | mul =>
    obtain rfl := Option.some.inj hhelper
    exact binary_eq rfl
  | rem =>
    obtain rfl := Option.some.inj hhelper
    have hdivisor : (Float.ofInt y.toInt == 0.0) = false := by
      apply beq_zero_eq_false (isNearest_ofInt_toInt y)
      intro hzero
      exact hy rfl (Int64.toInt_inj.mp hzero)
    apply binary_eq
    rw [hdivisor]
    rfl
  | _ => contradiction

/-! ### Operators -/

theorem fits_tmod (x : Int64) (hy : y ≠ 0) : Fits (x.toInt.tmod y.toInt) := by
  have hne : y.toInt ≠ 0 := fun h => hy (Int64.toInt_inj.mp h)
  have habs : (x.toInt.tmod y.toInt).natAbs < y.toInt.natAbs := by
    rw [Int.natAbs_tmod]
    exact Nat.mod_lt _ (by omega)
  have hle := natAbs_toInt_le y
  have hmin : Int64.minValue.toInt = -2 ^ 63 := rfl
  have hmax : Int64.maxValue.toInt = 2 ^ 63 - 1 := rfl
  constructor <;> omega

/-- The text of an operator's result is that of the exact result, also for the one remainder that is
not taken among the integers. -/
theorem exists_text_apply (hwhole : op.whole? x.toInt y.toInt = some n) (hfits : Fits n)
    (hy : op = .rem → y ≠ 0) :
    ∃ w, op.apply (.int x) (.int y) = .ok w ∧ w.text = wholeText n := by
  have hexact (h : Exact n (op.apply (.int x) (.int y))) :
      ∃ w, op.apply (.int x) (.int y) = .ok w ∧ w.text = wholeText n := by
    obtain ⟨k, hk, hresult⟩ := h.of_fits hfits
    refine ⟨_, hresult, ?_⟩
    show wholeText k.toInt = _
    rw [hk]
  cases op with
  | add =>
    obtain rfl := Option.some.inj hwhole
    exact hexact (BinaryOp.exact_add x y)
  | sub =>
    obtain rfl := Option.some.inj hwhole
    exact hexact (BinaryOp.exact_sub x y)
  | mul =>
    obtain rfl := Option.some.inj hwhole
    exact hexact (BinaryOp.exact_mul x y)
  | rem =>
    obtain rfl := Option.some.inj hwhole
    by_cases hquotient : x = Int64.minValue ∧ y = -1
    · obtain ⟨rfl, rfl⟩ := hquotient
      have hzero : IsNearest (remainder (Float.ofInt Int64.minValue.toInt)
          (Float.ofInt (-1 : Int64).toInt)) 0 :=
        (isNearest_ofInt_toInt Int64.minValue).remainder (isNearest_ofInt_toInt (-1)) (by decide)
          (by decide)
      have hremainder : Int64.minValue.toInt.tmod (-1 : Int64).toInt = 0 := by decide
      refine ⟨_, BinaryOp.rem_minValue, ?_⟩
      rw [hremainder, ← Number.text_float_of_lt hzero (by decide)]
      rfl
    · exact hexact (BinaryOp.exact_rem (hy rfl) hquotient)
  | _ => contradiction

/-! ### Both -/

theorem exists_whole? (hwhole : op.whole? x.toInt y.toInt = some n) (k l : Int) :
    ∃ r, op.whole? k l = some r := by
  cases op with
  | add => exact ⟨_, rfl⟩
  | sub => exact ⟨_, rfl⟩
  | mul => exact ⟨_, rfl⟩
  | rem => exact ⟨_, rfl⟩
  | _ => contradiction

/-- A helper by the name of an operator and the operator write the same text exactly if the result
from the rounded operands is rounded to the float of the exact result, and that float is written
with the digits of the result. They do so if the operands are exact as floats and the result has at
most 53 binary digits. -/
theorem helper_text_eq_operator_text_iff (x y : Int64) (n : Int)
    (hhelper : helperOf? op = some helper) (hwhole : op.whole? x.toInt y.toInt = some n)
    (hfits : op = .rem ∨ Fits n) (hy : op = .rem → y ≠ 0) :
    ∃ r v w, op.whole? (nearestInteger x.toInt) (nearestInteger y.toInt) = some r ∧
      helper [.int x, .int y] = .ok v ∧ op.apply (.int x) (.int y) = .ok w ∧
      (v.text = w.text ↔ nearestInteger r = nearestInteger n ∧ IsPlain n) ∧
      (nearestInteger x.toInt = x.toInt → nearestInteger y.toInt = y.toInt →
        n.natAbs < 2 ^ 53 → v.text = w.text) := by
  have hfits : Fits n := by
    rcases hfits with rfl | hfits
    · obtain rfl := Option.some.inj hwhole
      exact fits_tmod x (hy rfl)
    · exact hfits
  have hn : n.natAbs < 2 ^ 64 := by
    have hlow : -2 ^ 63 ≤ n := hfits.1
    have hhigh : n ≤ 2 ^ 63 - 1 := hfits.2
    omega
  obtain ⟨r, hr⟩ := exists_whole? hwhole (nearestInteger x.toInt) (nearestInteger y.toInt)
  obtain ⟨w, happly, htext⟩ := exists_text_apply hwhole hfits hy
  have hnearest := isNearest_approximate (isNearest_ofInt_toInt x) (isNearest_ofInt_toInt y)
    (natAbs_toInt_le x) (natAbs_toInt_le y)
    (fun hop hzero => hy hop (Int64.toInt_inj.mp hzero)) hr
  have hiff := Number.text_ofFloat_eq_iff hnearest hn
  rw [← htext] at hiff
  refine ⟨r, _, w, hr, helper_eq_approximate hhelper hy, happly, hiff, fun hx' hy' hsmall => ?_⟩
  rw [hx', hy', hwhole] at hr
  obtain rfl := Option.some.inj hr
  exact hiff.mpr ⟨rfl, Number.isPlain_of_lt hsmall⟩

/-- The least integer divided by minus one leaves nothing, and the two agree on it though only the
helper has an integer for it. -/
theorem helper_text_eq_operator_text_iff_rem :
    helperOf? .rem = some Arithmetic.modulo ∧
      BinaryOp.rem.whole? Int64.minValue.toInt (-1 : Int64).toInt = some 0 ∧ (-1 : Int64) ≠ 0 ∧
      ∃ v w, Arithmetic.modulo [.int Int64.minValue, .int (-1)] = .ok v ∧
        BinaryOp.rem.apply (.int Int64.minValue) (.int (-1)) = .ok w ∧ v.text = w.text := by
  have hwhole : BinaryOp.rem.whole? Int64.minValue.toInt (-1 : Int64).toInt = some 0 := by decide
  have hy : (-1 : Int64) ≠ 0 := by decide
  obtain ⟨r, v, w, -, hhelper, happly, -, hagree⟩ :=
    helper_text_eq_operator_text_iff Int64.minValue (-1) 0 rfl hwhole (.inl rfl) fun _ => hy
  exact ⟨rfl, hwhole, hy, v, w, hhelper, happly, hagree (by decide) (by decide) (by decide)⟩

/-- The first integer that a float does not hold loses a unit before one is taken away. -/
theorem subtract_text_ne :
    Fits ((9007199254740993 : Int64).toInt - (1 : Int64).toInt) ∧
      ∃ v w, Arithmetic.subtract [.int 9007199254740993, .int 1] = .ok v ∧
        BinaryOp.sub.apply (.int 9007199254740993) (.int 1) = .ok w ∧ v.text ≠ w.text := by
  have hfits : Fits ((9007199254740993 : Int64).toInt - (1 : Int64).toInt) := by decide
  have hrem : BinaryOp.sub = .rem → (1 : Int64) ≠ 0 := fun _ => by decide
  have hnearest : IsNearest
      (BinaryOp.sub.approximate (Float.ofInt (9007199254740993 : Int64).toInt)
        (Float.ofInt (1 : Int64).toInt)) 9007199254740991 :=
    isNearest_approximate (isNearest_ofInt_toInt _) (isNearest_ofInt_toInt _) (natAbs_toInt_le _)
      (natAbs_toInt_le _) (fun _ => by decide) (by decide)
  have hwhole : BinaryOp.sub.whole? (9007199254740993 : Int64).toInt (1 : Int64).toInt =
      some ((9007199254740993 : Int64).toInt - (1 : Int64).toInt) := rfl
  obtain ⟨w, happly, htext⟩ := exists_text_apply hwhole hfits hrem
  refine ⟨hfits, _, w, helper_eq_approximate rfl hrem, happly, fun h => ?_⟩
  have hsame := (Number.text_ofFloat_eq_iff hnearest (by decide)).mp (h.trans htext)
  exact absurd hsame.1 (by decide)

end Stencil.Library
