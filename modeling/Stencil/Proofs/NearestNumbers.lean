import Stencil.Proofs.NearestArithmetic
import Stencil.Proofs.WholeArithmetic

/-!
The floats of integers as numbers. Below a bound of nine quadrillion they are taken for the integers
that they are; a float from there on keeps the form of a float, and its text is the shortest decimal
that is rounded to it.
-/
namespace Stencil.Decimal

open Float.Model Float.Model.UnpackedFloat

variable {a j n : Nat} {d : Dyadic} {u v : UnpackedFloat} {x y : Float} {k : Int}

/-! ### Whole quantities -/

theorem wholeMagnitude_of_mul_eq (h : d.mantissa * 2 ^ j = a * 2 ^ 52)
    (he : d.exponent = (j : Int) - 52) : d.wholeMagnitude = a := by
  rw [Dyadic.wholeMagnitude]
  split
  · next hneg =>
    rw [mantissa_eq_mul h he hneg]
    exact Nat.mul_div_cancel a (Nat.two_pow_pos _)
  · exact mantissa_mul_eq h he (by omega)

theorem isWhole_of_mul_eq (h : d.mantissa * 2 ^ j = a * 2 ^ 52) (he : d.exponent = (j : Int) - 52) :
    d.isWhole = true := by
  rw [Dyadic.isWhole, Bool.or_eq_true, decide_eq_true_eq, beq_iff_eq]
  by_cases hneg : d.exponent < 0
  · right
    rw [mantissa_eq_mul h he hneg]
    exact Nat.mul_mod_left a _
  · left
    omega

namespace Dyadic.Spells

variable (h : d.Spells k)
include h

theorem isWhole : d.isWhole = true := by
  cases h with
  | zero negative =>
    rw [Dyadic.isWhole, Nat.zero_mod]
    exact Bool.or_true _
  | normal _ _ hmul => exact isWhole_of_mul_eq hmul rfl

theorem truncate : d.truncate = k := by
  cases h with
  | zero negative =>
    have hzero : wholeMagnitude ⟨negative, 0, -1074⟩ = 0 := Nat.zero_div _
    rw [Dyadic.truncate, hzero]
    cases negative <;> rfl
  | @normal s m j a _ _ hmul =>
    rw [Dyadic.truncate, wholeMagnitude_of_mul_eq hmul rfl]
    exact ite_negative s a

theorem floor : d.floor = k := by
  rw [Dyadic.floor, h.isWhole, Bool.not_true, Bool.and_false, if_neg Bool.false_ne_true, h.truncate]

theorem ceil : d.ceil = k := by
  rw [Dyadic.ceil, h.isWhole, Bool.not_true, Bool.and_false, if_neg Bool.false_ne_true, h.truncate]

theorem round : d.round = k := by
  cases h with
  | zero negative =>
    have hzero : wholeMagnitude ⟨negative, 0, -1073⟩ = 0 := Nat.zero_div _
    show (if negative then -(((wholeMagnitude ⟨negative, 0, -1073⟩ + 1) / 2 : Nat) : Int) else
      ((wholeMagnitude ⟨negative, 0, -1073⟩ + 1) / 2 : Nat)) = 0
    rw [hzero]
    cases negative <;> rfl
  | @normal s m j a _ _ hmul =>
    have hdoubled : wholeMagnitude ⟨s == .negative, m, (j : Int) - 52 + 1⟩ = a * 2 := by
      refine wholeMagnitude_of_mul_eq (j := j + 1) ?_ (by dsimp only; omega)
      rw [Nat.pow_succ, ← Nat.mul_assoc, hmul, Nat.mul_right_comm]
    have hhalf : (a * 2 + 1) / 2 = a := by omega
    rw [Dyadic.round, hdoubled, hhalf]
    exact ite_negative s a

end Dyadic.Spells

/-! ### Whole floats -/

theorem IsNearest.isFinite (hx : IsNearest x k) : isFinite x = true := by
  obtain ⟨d, hd, -⟩ := hx.exists_spells
  rw [Decimal.isFinite, hd]

theorem IsNearest.isWhole (hx : IsNearest x k) : isWhole x = true := by
  obtain ⟨d, hd, hspells⟩ := hx.exists_spells
  rw [Decimal.isWhole, hd]
  exact hspells.isWhole

theorem IsNearest.saturate (hx : IsNearest x k) :
    (saturate x).toInt =
      max Int64.minValue.toInt (min (Decimal.nearestInteger k) Int64.maxValue.toInt) := by
  obtain ⟨d, hd, hspells⟩ := hx.exists_spells
  have hmin : Int64.minValue.toInt = -2 ^ 63 := rfl
  have hmax : Int64.maxValue.toInt = 2 ^ 63 - 1 := rfl
  rw [Decimal.saturate, hd]
  simp only [hspells.truncate]
  split
  · omega
  · split
    · omega
    · rw [Int64.toInt_ofInt_of_le (by omega) (by omega)]
      omega

/-- A rounding of quantities that keeps whole ones keeps the floats of integers. -/
theorem IsNearest.roundWith {f : Dyadic → Int} (hx : IsNearest x k)
    (hf : ∀ d l, Dyadic.Spells d l → f d = l) (hk : (Decimal.nearestInteger k).natAbs < 2 ^ 64) :
    IsNearest (roundWith f x) (Decimal.nearestInteger k) := by
  obtain ⟨d, hd, hspells⟩ := hx.exists_spells
  rw [Decimal.roundWith, hd]
  simp only [hf d _ hspells, signedWhole]
  split
  · next hzero =>
    rw [Bool.and_eq_true, beq_iff_eq] at hzero
    rw [hzero.2]
    exact isNearest_zero .negative
  · exact isNearest_ofInt hk

theorem lt_iff_of_isNormal {key key' : Int} (hu : IsNormal .positive key u)
    (hv : IsNormal .positive key' v) : u.lt v = true ↔ key < key' := by
  obtain ⟨m, e, hpos, rfl, hlow, hhigh, -, -, rfl⟩ := hu
  obtain ⟨m', e', hpos', rfl, hlow', hhigh', -, -, rfl⟩ := hv
  show (some ((compare e e').then (compare m m')) == some .lt) = true ↔ _
  rw [beq_iff_eq, Option.some.injEq, Ordering.then_eq_lt, Int.compare_eq_lt, Int.compare_eq_eq,
    Nat.compare_eq_lt]
  omega

/-- The magnitudes of two floats of integers compare as those of the integers do, rounded. -/
theorem IsNearest.abs_lt_iff (hx : IsNearest x k) (hy : IsNearest y n) (hn : n ≠ 0) :
    x.abs < y ↔ wholeKey k.natAbs < wholeKey n := by
  obtain ⟨u, hu, rfl⟩ := hx
  obtain ⟨v, hv, rfl⟩ := hy
  have hnormal : IsNormal .positive (wholeKey n) v := Rounds.isNormal (s := .positive) hn hv
  show decide (((Float.Model.pack (Float.Model.pack u).unpack.abs).unpack.lt
    (Float.Model.pack v).unpack) = true) = true ↔ _
  rw [decide_eq_true_eq, hu.unpack_pack, hnormal.unpack_pack]
  cases hu with
  | zero s =>
    obtain ⟨m, e, hpos, rfl, -⟩ := hnormal
    have hzero : wholeKey (0 : Int).natAbs = 0 := rfl
    have hkey : 0 < wholeKey n := wholeKey_pos (by omega)
    have habs : (Float.Model.pack (UnpackedFloat.zero s).abs).unpack = .zero .positive :=
      (Rounds.zero .positive).unpack_pack
    rw [hzero, habs]
    exact ⟨fun _ => hkey, fun _ => rfl⟩
  | @normal s n' _ hn' h =>
    have habs : IsNormal .positive (wholeKey n') u.abs := by
      obtain ⟨m, e, hpos, rfl, hrest⟩ := h
      exact ⟨m, e, hpos, rfl, hrest⟩
    rw [habs.unpack_pack, lt_iff_of_isNormal habs hnormal, natAbs_apply]
    omega

end Stencil.Decimal

namespace Stencil.Number

open Decimal

variable {x : Float} {k : Int}

/-! ### The number of a float -/

theorem isNearest_wholeBound : IsNearest wholeBound (9000000000000000 : Nat) := by
  have hbound : wholeBound = Float.ofNat 9000000000000000 := by decide +kernel
  rw [hbound]
  exact isNearest_ofNat (by decide)

theorem isNearest_plainBound : IsNearest plainBound (1000000000000000 : Nat) := by
  have hbound : plainBound = Float.ofNat 1000000000000000 := by decide +kernel
  rw [hbound]
  exact isNearest_ofNat (by decide)

/-- Below a bound with at most 53 binary digits are the floats of the integers below it. -/
theorem abs_lt_iff {y : Float} {n : Nat} (hx : IsNearest x k) (hy : IsNearest y n) (hn : n ≠ 0)
    (hlt : n < 2 ^ 53) : x.abs < y ↔ k.natAbs < n := by
  rw [hx.abs_lt_iff hy hn]
  constructor
  · intro hkey
    by_contra hle
    have := wholeKey_mono (m := n) (n := k.natAbs) (by omega)
    omega
  · intro hk
    exact wholeKey_lt hk (by omega)

theorem isIntegral_iff (hx : IsNearest x k) :
    isIntegral x = true ↔ k.natAbs < 9000000000000000 := by
  rw [isIntegral, hx.isWhole, Bool.true_and, decide_eq_true_eq]
  exact abs_lt_iff hx isNearest_wholeBound (by decide) (by decide)

/-- A float of an integer is taken for that integer below nine quadrillion and only there. -/
theorem ofFloat_eq (hx : IsNearest x k) :
    (k.natAbs < 9000000000000000 → ∃ n : Int64, n.toInt = k ∧ ofFloat x = .int n) ∧
      (9000000000000000 ≤ k.natAbs → ofFloat x = .float x) := by
  constructor
  · intro hk
    have hmin : Int64.minValue.toInt = -2 ^ 63 := rfl
    have hmax : Int64.maxValue.toInt = 2 ^ 63 - 1 := rfl
    have hexact : nearestInteger k = k := nearestInteger_of_natAbs_lt (by omega)
    refine ⟨saturate x, ?_, if_pos ((isIntegral_iff hx).mpr hk)⟩
    rw [hx.saturate, hexact]
    omega
  · intro hk
    exact if_neg fun h => absurd ((isIntegral_iff hx).mp h) (by omega)

/-- A small float of an integer is written as the integer. -/
theorem text_float_of_lt (hx : IsNearest x k) (hk : k.natAbs < 1000000000000000) :
    (Number.float x).text = wholeText k := by
  have hexact : nearestInteger k = k := nearestInteger_of_natAbs_lt (by omega)
  obtain ⟨d, hd, hspells⟩ := hx.exists_spells
  have hplain : x.abs < plainBound :=
    (abs_lt_iff hx isNearest_plainBound (by decide) (by decide)).mpr hk
  rw [text, hd]
  simp only [hspells.isWhole, hspells.truncate, hplain, hexact, decide_true, Bool.and_self, if_true]

theorem text_ofFloat_of_lt (hx : IsNearest x k) (hk : k.natAbs < 9000000000000000) :
    (ofFloat x).text = wholeText k := by
  obtain ⟨n, hn, hint⟩ := (ofFloat_eq hx).1 hk
  rw [hint, text, hn]

end Stencil.Number
