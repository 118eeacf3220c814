import Stencil.Expr.Operation
import Stencil.Proofs.NearestFloats

/-!
Arithmetic on the floats of integers. Each operation first has the integers that its operands are
rounded to, computes with them exactly, and rounds the result once more.
-/
namespace Stencil.Decimal

open Float.Model Float.Model.UnpackedFloat

variable {a b m n j : Nat} {s s₁ s₂ : Sign} {u v : UnpackedFloat} {x y : Float} {k l : Int}

/-! ### Signs -/

theorem mul_apply (s₁ s₂ : Sign) (k l : Int) :
    (s₁ * s₂).apply (k * l) = s₁.apply k * s₂.apply l := by
  cases s₁ <;> cases s₂
  · exact (Int.neg_mul_neg k l).symm
  · exact (Int.neg_mul k l).symm
  · exact (Int.mul_neg k l).symm
  · rfl

theorem ite_negative (s : Sign) (k : Int) : (if s == .negative then -k else k) = s.apply k := by
  cases s <;> rfl

/-! ### Sums, differences and products -/

theorem add_finite {m₁ m₂ : Nat} {e₁ e₂ : Int} (h₁ : 0 < m₁) (h₂ : 0 < m₂) :
    UnpackedFloat.add .binary64 (.finite s₁ m₁ e₁ h₁) (.finite s₂ m₂ e₂ h₂) =
      UnpackedFloat.normalize .binary64
        (s₁.apply (m₁ <<< (e₁ - min e₁ e₂).toNat : Nat) +
          s₂.apply (m₂ <<< (e₂ - min e₁ e₂).toNat : Nat))
        (min e₁ e₂) .positive :=
  rfl

/-- The smaller of two exponents, and the digits that come behind a significand on the way to it. -/
theorem min_exponents (j₁ j₂ : Nat) :
    min ((j₁ : Int) - 52) ((j₂ : Int) - 52) = (min j₁ j₂ : Nat) - 52 ∧
      ((j₁ : Int) - 52 - ((min j₁ j₂ : Nat) - 52)).toNat = j₁ - min j₁ j₂ ∧
      ((j₂ : Int) - 52 - ((min j₁ j₂ : Nat) - 52)).toNat = j₂ - min j₁ j₂ := by
  omega

/-- Two significands over one unit. -/
theorem apply_shift_mul (s : Sign) {d : Nat} (h : m * 2 ^ j = a * 2 ^ 52) (hd : d ≤ j) :
    s.apply (m * 2 ^ (j - d) : Nat) * 2 ^ d = s.apply a * 2 ^ 52 := by
  have hmul : m * 2 ^ (j - d) * 2 ^ d = a * 2 ^ 52 := by
    rw [Nat.mul_assoc, ← Nat.pow_add, Nat.sub_add_cancel hd, h]
  have hcast : ((m * 2 ^ (j - d) : Nat) : Int) * 2 ^ d = (a : Int) * 2 ^ 52 := by
    exact_mod_cast hmul
  rw [apply_mul, apply_mul, hcast]

theorem Rounds.add (hu : Rounds k u) (hv : Rounds l v)
    (hlog : (Decimal.nearestInteger k + Decimal.nearestInteger l).natAbs.log2 < 1023) :
    Rounds (Decimal.nearestInteger k + Decimal.nearestInteger l)
      (UnpackedFloat.add .binary64 u v) := by
  cases hu with
  | zero s =>
    rw [nearestInteger_zero, Int.zero_add]
    cases hv with
    | zero s' => cases s <;> cases s' <;> exact .zero _
    | normal hn h =>
      obtain ⟨m, j, hpos, rfl, -⟩ := h.exists_parts hn
      exact (Rounds.normal hn h).nearestInteger
  | @normal s₁ n₁ _ hn₁ h₁ =>
    obtain ⟨m₁, j₁, hpos₁, rfl, -, -, hmul₁⟩ := h₁.exists_parts hn₁
    cases hv with
    | zero s' =>
      rw [nearestInteger_zero, Int.add_zero]
      exact (Rounds.normal hn₁ h₁).nearestInteger
    | @normal s₂ n₂ _ hn₂ h₂ =>
      obtain ⟨m₂, j₂, hpos₂, rfl, -, -, hmul₂⟩ := h₂.exists_parts hn₂
      rw [nearestInteger_apply, nearestInteger_apply] at hlog ⊢
      obtain ⟨hunit, hshift₁, hshift₂⟩ := min_exponents j₁ j₂
      rw [add_finite, hunit, hshift₁, hshift₂, Nat.shiftLeft_eq, Nat.shiftLeft_eq]
      refine rounds_normalize (p := min j₁ j₂) (q := 52) ?_ rfl hlog
      rw [Int.add_mul, apply_shift_mul s₁ hmul₁ (Nat.min_le_left j₁ j₂),
        apply_shift_mul s₂ hmul₂ (Nat.min_le_right j₁ j₂), ← Int.add_mul]

theorem sub_eq_add_neg (u v : UnpackedFloat) :
    UnpackedFloat.sub .binary64 u v = UnpackedFloat.add .binary64 u v.neg := by
  cases u with
  | finite s₁ m₁ e₁ h₁ =>
    cases v with
    | finite s₂ m₂ e₂ h₂ =>
      show UnpackedFloat.normalize .binary64 (_ - s₂.apply _) _ _ =
        UnpackedFloat.normalize .binary64 (_ + (-s₂).apply _) _ _
      rw [neg_apply, ← Int.sub_eq_add_neg]
    | _ => rfl
  | _ => cases v <;> rfl

theorem Rounds.mul (hu : Rounds k u) (hv : Rounds l v)
    (hlog : (Decimal.nearestInteger k * Decimal.nearestInteger l).natAbs.log2 < 1023) :
    Rounds (Decimal.nearestInteger k * Decimal.nearestInteger l)
      (UnpackedFloat.mul .binary64 u v) := by
  cases hu with
  | zero s =>
    rw [nearestInteger_zero, Int.zero_mul]
    cases hv with
    | zero s' => exact .zero _
    | normal hn h =>
      obtain ⟨m, j, hpos, rfl, -⟩ := h.exists_parts hn
      exact .zero _
  | @normal s₁ n₁ _ hn₁ h₁ =>
    obtain ⟨m₁, j₁, hpos₁, rfl, hlow₁, -, hmul₁⟩ := h₁.exists_parts hn₁
    cases hv with
    | zero s' =>
      rw [nearestInteger_zero, Int.mul_zero]
      exact .zero _
    | @normal s₂ n₂ _ hn₂ h₂ =>
      obtain ⟨m₂, j₂, hpos₂, rfl, hlow₂, -, hmul₂⟩ := h₂.exists_parts hn₂
      rw [nearestInteger_apply, nearestInteger_apply, ← mul_apply, ← Int.natCast_mul] at hlog ⊢
      rw [natAbs_apply] at hlog
      have hne : nearestWhole n₁ * nearestWhole n₂ ≠ 0 :=
        Nat.mul_ne_zero (fun h => hn₁ (nearestWhole_eq_zero_iff.mp h))
          (fun h => hn₂ (nearestWhole_eq_zero_iff.mp h))
      have hproduct : 2 ^ 52 * 2 ^ 52 ≤ m₁ * m₂ := Nat.mul_le_mul hlow₁ hlow₂
      have hdigits : 52 ≤ (m₁ * m₂).log2 := (Nat.le_log2 (by omega)).mpr (by omega)
      have hmul : m₁ * m₂ * 2 ^ (j₁ + j₂) = nearestWhole n₁ * nearestWhole n₂ * 2 ^ 104 := by
        rw [Nat.pow_add, Nat.mul_mul_mul_comm, hmul₁, hmul₂, Nat.mul_mul_mul_comm, ← Nat.pow_add]
      rw [mul_finite]
      exact .normal hne (isNormal_roundWithAccuracy_of_mul_eq _ hne hlog hdigits hmul (by omega))

theorem IsNearest.add (hx : IsNearest x k) (hy : IsNearest y l)
    (hlog : (Decimal.nearestInteger k + Decimal.nearestInteger l).natAbs.log2 < 1023) :
    IsNearest (x + y) (Decimal.nearestInteger k + Decimal.nearestInteger l) := by
  obtain ⟨u, hu, rfl⟩ := hx
  obtain ⟨v, hv, rfl⟩ := hy
  refine ⟨_, hu.add hv hlog, ?_⟩
  show Float.ofModel (Float.Model.pack (UnpackedFloat.add .binary64 (Float.Model.pack u).unpack
    (Float.Model.pack v).unpack)) = _
  rw [hu.unpack_pack, hv.unpack_pack]

theorem IsNearest.sub (hx : IsNearest x k) (hy : IsNearest y l)
    (hlog : (Decimal.nearestInteger k - Decimal.nearestInteger l).natAbs.log2 < 1023) :
    IsNearest (x - y) (Decimal.nearestInteger k - Decimal.nearestInteger l) := by
  obtain ⟨u, hu, rfl⟩ := hx
  obtain ⟨v, hv, rfl⟩ := hy
  rw [Int.sub_eq_add_neg, ← nearestInteger_neg] at hlog ⊢
  refine ⟨_, hu.add hv.neg hlog, ?_⟩
  show Float.ofModel (Float.Model.pack (UnpackedFloat.sub .binary64 (Float.Model.pack u).unpack
    (Float.Model.pack v).unpack)) = _
  rw [hu.unpack_pack, hv.unpack_pack, sub_eq_add_neg]

theorem IsNearest.mul (hx : IsNearest x k) (hy : IsNearest y l)
    (hlog : (Decimal.nearestInteger k * Decimal.nearestInteger l).natAbs.log2 < 1023) :
    IsNearest (x * y) (Decimal.nearestInteger k * Decimal.nearestInteger l) := by
  obtain ⟨u, hu, rfl⟩ := hx
  obtain ⟨v, hv, rfl⟩ := hy
  refine ⟨_, hu.mul hv hlog, ?_⟩
  show Float.ofModel (Float.Model.pack (UnpackedFloat.mul .binary64 (Float.Model.pack u).unpack
    (Float.Model.pack v).unpack)) = _
  rw [hu.unpack_pack, hv.unpack_pack]

/-! ### Division by a power of two -/

/-- The quotient of two significands of which the second is a power of two has no remainder. -/
theorem div_two_pow {t : Nat} (hpos : 0 < m) (hpos' : 0 < 2 ^ 52) (hlow : 2 ^ 52 ≤ m)
    (hhigh : m < 2 ^ 53) (ht : t ≤ j) :
    UnpackedFloat.div .binary64 (.finite s m ((j : Int) - 52) hpos)
        (.finite .positive (2 ^ 52) ((t : Int) - 52) hpos') =
      roundWithAccuracy .binary64 s (m * 2) (((j - t : Nat) : Int) - 53) .exact := by
  have hlog : m.log2 = 52 := log2_of_bounds hlow hhigh
  have hlog' : (2 ^ 52 : Nat).log2 = 52 := by decide
  have htarget : min ((j : Int) - 52 - ((t : Int) - 52)) (Format.binary64.targetExponent
      (totalExponent m ((j : Int) - 52) - totalExponent (2 ^ 52) ((t : Int) - 52))) =
      ((j - t : Nat) : Int) - 53 := by
    rw [targetExponent_eq, totalExponent, totalExponent, hlog, hlog']
    omega
  have hamount : ((j : Int) - 52 - ((t : Int) - 52) - (((j - t : Nat) : Int) - 53)).toNat = 53 := by
    omega
  have hshift : m <<< 53 = m * 2 * 2 ^ 52 := by
    rw [Nat.shiftLeft_eq]
    omega
  have hcore : divCore .binary64 m ((j : Int) - 52) (2 ^ 52) ((t : Int) - 52) =
      (m * 2, ((j - t : Nat) : Int) - 53, Accuracy.exact) := by
    rw [divCore, htarget, hamount, hshift]
    simp only [Nat.mul_div_cancel _ hpos', Nat.mul_mod_left]
    rfl
  have hsign : s / Sign.positive = s := by
    cases s <;> rfl
  show roundWithAccuracy .binary64 (s / Sign.positive)
    (divCore .binary64 m ((j : Int) - 52) (2 ^ 52) ((t : Int) - 52)).1
    (divCore .binary64 m ((j : Int) - 52) (2 ^ 52) ((t : Int) - 52)).2.1
    (divCore .binary64 m ((j : Int) - 52) (2 ^ 52) ((t : Int) - 52)).2.2 = _
  rw [hcore, hsign]

/-- A power of two is a significand of one digit. -/
theorem Rounds.eq_two_pow {t : Nat} (hv : Rounds (2 ^ t : Nat) v) :
    ∃ hpos, v = .finite .positive (2 ^ 52) ((t : Int) - 52) hpos := by
  have hpower : 2 ^ 52 * 2 ^ t = 2 ^ t * 2 ^ 52 := Nat.mul_comm _ _
  have hkey : wholeKey (2 ^ t) = (t + 1022) * 2 ^ 52 + 2 ^ 52 :=
    wholeKey_of_significand (by decide) (by decide) hpower
  have hne : 2 ^ t ≠ 0 := Nat.ne_of_gt (Nat.two_pow_pos t)
  obtain ⟨m, e, hpos, rfl, hlow, hhigh, -, -, he⟩ := Rounds.isNormal (s := .positive) hne hv
  rw [hkey] at he
  obtain rfl : m = 2 ^ 52 := by omega
  refine ⟨hpos, ?_⟩
  rw [UnpackedFloat.finite.injEq]
  exact ⟨rfl, rfl, by omega⟩

/-- A multiple of a power of two is divided by it exactly. -/
theorem Rounds.div_two_pow {t : Nat} (hu : Rounds (k * (2 ^ t : Nat)) u)
    (hv : Rounds (2 ^ t : Nat) v) (hlog : (nearestWhole k.natAbs).log2 < 1023) :
    Rounds k (UnpackedFloat.div .binary64 u v) := by
  obtain ⟨hpos', rfl⟩ := hv.eq_two_pow
  obtain ⟨s, hs⟩ := exists_sign k
  generalize k.natAbs = a at hs hlog
  subst hs
  by_cases ha : a = 0
  · subst ha
    have hzero : s.apply ((0 : Nat) : Int) = 0 := by cases s <;> rfl
    rw [hzero, Int.zero_mul] at hu
    obtain ⟨s', rfl⟩ := hu.exists_zero
    rw [hzero]
    exact .zero _
  · have hpos : 0 < 2 ^ t := Nat.two_pow_pos t
    have hne : a * 2 ^ t ≠ 0 := Nat.mul_ne_zero ha (by omega)
    have hne' : nearestWhole a ≠ 0 := fun h => ha (nearestWhole_eq_zero_iff.mp h)
    rw [apply_mul, ← Int.natCast_mul] at hu
    have hnormal := hu.isNormal hne
    obtain ⟨m, j, hmpos, rfl, hlow, hhigh, hmul⟩ := hnormal.exists_parts hne
    rw [nearestWhole_mul_two_pow] at hmul
    have hj : t ≤ j := by
      have hdigits := (log2_of_significand hlow hhigh hmul).2
      rw [log2_mul_two_pow hne'] at hdigits
      omega
    have hquotient : m * 2 * 2 ^ (j - t) = nearestWhole a * 2 ^ 53 := by
      apply Nat.eq_of_mul_eq_mul_right hpos
      calc
        m * 2 * 2 ^ (j - t) * 2 ^ t = m * 2 ^ j * 2 := by
          rw [Nat.mul_assoc, ← Nat.pow_add, Nat.sub_add_cancel hj, Nat.mul_right_comm]
        _ = nearestWhole a * 2 ^ t * (2 ^ 52 * 2) := by rw [hmul, Nat.mul_assoc]
        _ = nearestWhole a * 2 ^ 53 * 2 ^ t := Nat.mul_right_comm _ _ _
    have hdigits : 52 ≤ (m * 2).log2 := (Nat.le_log2 (by omega)).mpr (by omega)
    rw [div_two_pow hmpos hpos' hlow hhigh hj]
    refine .normal ha ?_
    rw [← wholeKey_nearestWhole]
    exact isNormal_roundWithAccuracy_of_mul_eq s hne' hlog hdigits hquotient rfl

theorem IsNearest.div_two_pow {t : Nat} (hx : IsNearest x (k * (2 ^ t : Nat))) (ht : t < 64)
    (hlog : (nearestWhole k.natAbs).log2 < 1023) :
    IsNearest (x / Float.ofNat (2 ^ t)) k := by
  have hlt : 2 ^ t < 2 ^ 64 := Nat.pow_lt_pow_right (by decide) ht
  obtain ⟨u, hu, rfl⟩ := hx
  obtain ⟨v, hv, hy⟩ := isNearest_ofNat hlt
  refine ⟨_, hu.div_two_pow hv hlog, ?_⟩
  rw [hy]
  show Float.ofModel (Float.Model.pack (UnpackedFloat.div .binary64 (Float.Model.pack u).unpack
    (Float.Model.pack v).unpack)) = _
  rw [hu.unpack_pack, hv.unpack_pack]

/-! ### Remainders -/

theorem log2_nearestWhole_lt (h : n < 2 ^ 64) : (nearestWhole n).log2 < 1023 := by
  have hle : nearestWhole n ≤ 2 ^ 64 := nearestWhole_le_two_pow (Nat.le_of_lt h)
  have hlog : (nearestWhole n).log2 ≤ 64 := by
    by_cases hzero : nearestWhole n = 0
    · rw [hzero]
      decide
    · exact log2_mono hzero hle
  omega

/-- The quantity of an integer, in units that may be fractions of one, as a float. -/
theorem isNearest_toFloat {d : Dyadic} (hd : d.mantissa < 2 ^ 53) (ha : a < 2 ^ 64)
    (h : d.mantissa * 2 ^ j = a * 2 ^ 52) (he : d.exponent = (j : Int) - 52) :
    IsNearest d.toFloat (if d.negative then -(a : Int) else a) := by
  have hmagnitude : IsNearest
      (if d.exponent < 0 then
        Float.ofNat d.mantissa / Float.ofNat (Nat.pow 2 ((-d.exponent).toNat / 2)) /
          Float.ofNat (Nat.pow 2 ((-d.exponent).toNat - (-d.exponent).toNat / 2))
      else Float.ofNat (d.mantissa * Nat.pow 2 d.exponent.toNat)) a := by
    split
    · next hneg =>
      -- Both divisions are exact, since only zeros are behind the point.
      have hmantissa := mantissa_eq_mul h he hneg
      obtain ⟨t, ht⟩ : ∃ t, (-d.exponent).toNat = t := ⟨_, rfl⟩
      rw [ht, show 2 ^ t = 2 ^ (t - t / 2) * 2 ^ (t / 2) by
        rw [← Nat.pow_add]
        congr 1
        omega, ← Nat.mul_assoc] at hmantissa
      have hfirst : a * 2 ^ (t - t / 2) < 2 ^ 64 := by
        have hle : a * 2 ^ (t - t / 2) ≤ d.mantissa := by
          rw [hmantissa]
          exact Nat.le_mul_of_pos_right _ (Nat.two_pow_pos _)
        omega
      have hstart : IsNearest (Float.ofNat d.mantissa) d.mantissa := isNearest_ofNat (by omega)
      rw [ht]
      rw [show (d.mantissa : Int) = (a * 2 ^ (t - t / 2) : Nat) * (2 ^ (t / 2) : Nat) by
        rw [hmantissa, Int.natCast_mul]] at hstart
      have hhalf := hstart.div_two_pow (by omega) (log2_nearestWhole_lt hfirst)
      rw [Int.natCast_mul] at hhalf
      exact hhalf.div_two_pow (by omega) (log2_nearestWhole_lt ha)
    · next hnonneg =>
      show IsNearest (Float.ofNat (d.mantissa * 2 ^ d.exponent.toNat)) a
      rw [mantissa_mul_eq h he (by omega)]
      exact isNearest_ofNat ha
  rw [Dyadic.toFloat]
  cases d.negative with
  | false => exact hmagnitude
  | true => exact hmagnitude.neg

theorem tmod_apply (s₁ s₂ : Sign) (a b : Nat) :
    (s₁.apply (a : Int)).tmod (s₂.apply b) = s₁.apply (a % b : Nat) := by
  cases s₁ <;> cases s₂
  · show (-(a : Int)).tmod (-(b : Int)) = -((a % b : Nat) : Int)
    rw [Int.tmod_neg, Int.neg_tmod, Int.ofNat_tmod]
  · show (-(a : Int)).tmod b = -((a % b : Nat) : Int)
    rw [Int.neg_tmod, Int.ofNat_tmod]
  · show (a : Int).tmod (-(b : Int)) = (a % b : Nat)
    rw [Int.tmod_neg, Int.ofNat_tmod]
  · exact (Int.ofNat_tmod a b).symm

theorem toFloat_zero (negative : Bool) : IsNearest (Dyadic.toFloat ⟨negative, 0, -1074⟩) 0 := by
  cases negative
  · exact ⟨.zero .positive, .zero _, by decide +kernel⟩
  · exact ⟨.zero .negative, .zero _, by decide +kernel⟩

/-- The remainder of two quantities, in the unit of the finer one. -/
theorem Dyadic.Spells.remainder {d₁ d₂ : Dyadic} (h₁ : d₁.Spells k) (h₂ : d₂.Spells l) (hl : l ≠ 0)
    (hk : k.natAbs < 2 ^ 64) :
    d₂.mantissa ≠ 0 ∧
      IsNearest (Dyadic.toFloat ⟨d₁.negative,
        d₁.inUnits (min d₁.exponent d₂.exponent) % d₂.inUnits (min d₁.exponent d₂.exponent),
        min d₁.exponent d₂.exponent⟩) (k.tmod l) := by
  cases h₂ with
  | zero => exact absurd rfl hl
  | @normal s₂ m₂ j₂ b hlow₂ hhigh₂ hmul₂ =>
    refine ⟨by dsimp only; omega, ?_⟩
    cases h₁ with
    | zero negative =>
      have hunit : min (-1074) ((j₂ : Int) - 52) = -1074 := by omega
      rw [hunit, Dyadic.inUnits, Nat.zero_mul, Nat.zero_mod, Int.zero_tmod]
      exact toFloat_zero negative
    | @normal s₁ m₁ j₁ a hlow₁ hhigh₁ hmul₁ =>
      rw [natAbs_apply] at hk
      obtain ⟨hunit, hshift₁, hshift₂⟩ := min_exponents j₁ j₂
      simp only [Dyadic.inUnits, hunit, hshift₁, hshift₂]
      show IsNearest (Dyadic.toFloat ⟨s₁ == .negative,
        m₁ * 2 ^ (j₁ - min j₁ j₂) % (m₂ * 2 ^ (j₂ - min j₁ j₂)), _⟩) _
      have hrest : m₁ * 2 ^ (j₁ - min j₁ j₂) % (m₂ * 2 ^ (j₂ - min j₁ j₂)) * 2 ^ min j₁ j₂ =
          a % b * 2 ^ 52 := by
        rw [← Nat.mul_mod_mul_right, ← Nat.mul_mod_mul_right, Nat.mul_assoc, ← Nat.pow_add,
          Nat.mul_assoc, ← Nat.pow_add, Nat.sub_add_cancel (Nat.min_le_left j₁ j₂),
          Nat.sub_add_cancel (Nat.min_le_right j₁ j₂), hmul₁, hmul₂]
      have hsmall : m₁ * 2 ^ (j₁ - min j₁ j₂) % (m₂ * 2 ^ (j₂ - min j₁ j₂)) < 2 ^ 53 := by
        rcases Nat.le_total j₁ j₂ with hle | hle
        · have hmod := Nat.mod_le (m₁ * 2 ^ (j₁ - min j₁ j₂)) (m₂ * 2 ^ (j₂ - min j₁ j₂))
          rw [Nat.min_eq_left hle, Nat.sub_self, Nat.pow_zero, Nat.mul_one] at hmod ⊢
          omega
        · rw [Nat.min_eq_right hle, Nat.sub_self, Nat.pow_zero, Nat.mul_one]
          have hmod := Nat.mod_lt (m₁ * 2 ^ (j₁ - j₂)) (y := m₂) (by omega)
          omega
      have hlt : a % b < 2 ^ 64 := Nat.lt_of_le_of_lt (Nat.mod_le a b) hk
      rw [tmod_apply, ← ite_negative]
      exact isNearest_toFloat hsmall hlt hrest rfl

/-- The remainder of two integers with at most 53 binary digits is exact. -/
theorem IsNearest.remainder (hx : IsNearest x k) (hy : IsNearest y l) (hl : l ≠ 0)
    (hk : (Decimal.nearestInteger k).natAbs < 2 ^ 64) :
    IsNearest (Decimal.remainder x y)
      ((Decimal.nearestInteger k).tmod (Decimal.nearestInteger l)) := by
  obtain ⟨d₁, hd₁, hspells₁⟩ := hx.exists_spells
  obtain ⟨d₂, hd₂, hspells₂⟩ := hy.exists_spells
  obtain ⟨hdivisor, hremainder⟩ :=
    hspells₁.remainder hspells₂ (fun h => hl (nearestInteger_eq_zero_iff.mp h)) hk
  rw [Decimal.remainder, hd₁, hd₂]
  simp only [hdivisor, if_false]
  exact hremainder

/-! ### Operators -/

theorem log2_lt_of_lt (h : n < 2 ^ 200) : n.log2 < 1023 := by
  by_cases hn : n = 0
  · rw [hn]
    decide
  · have hlog : n.log2 < 200 := (Nat.log2_lt hn).mpr h
    omega

/-- An operator on two integers of 64 bits as floats computes with what the floats keep of them. -/
theorem isNearest_approximate {op : Expr.BinaryOp} {r : Int} (hx : IsNearest x k)
    (hy : IsNearest y l) (hk : k.natAbs ≤ 2 ^ 63) (hl : l.natAbs ≤ 2 ^ 63)
    (hrem : op = .rem → l ≠ 0)
    (hwhole : op.whole? (Decimal.nearestInteger k) (Decimal.nearestInteger l) = some r) :
    IsNearest (op.approximate x y) r := by
  have hk' : (Decimal.nearestInteger k).natAbs ≤ 2 ^ 63 := by
    rw [natAbs_nearestInteger]
    exact nearestWhole_le_two_pow hk
  have hl' : (Decimal.nearestInteger l).natAbs ≤ 2 ^ 63 := by
    rw [natAbs_nearestInteger]
    exact nearestWhole_le_two_pow hl
  cases op with
  | add =>
    obtain rfl := Option.some.inj hwhole
    exact hx.add hy (log2_lt_of_lt (by omega))
  | sub =>
    obtain rfl := Option.some.inj hwhole
    exact hx.sub hy (log2_lt_of_lt (by omega))
  | mul =>
    obtain rfl := Option.some.inj hwhole
    have hproduct := Nat.mul_le_mul hk' hl'
    rw [← Int.natAbs_mul] at hproduct
    exact hx.mul hy (log2_lt_of_lt (by omega))
  | rem =>
    obtain rfl := Option.some.inj hwhole
    exact hx.remainder hy (hrem rfl) (by omega)
  | _ => contradiction

end Stencil.Decimal
