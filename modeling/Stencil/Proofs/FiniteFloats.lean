import Stencil.Decimal.Reader
import Stencil.Proofs.NearestNumbers

/-!
Which decimals become finite floats. A quotient is rounded to 53 binary digits, so it is rounded to
the first power of two that is no float, and with it to an infinite float, from half a unit below
that power on; all quotients below stay finite.
-/
namespace Stencil.Decimal

open Float.Model Float.Model.UnpackedFloat

variable {s : Sign} {u : UnpackedFloat} {x : Float} {n num den q k : Nat} {e : Int}

/-- Half way from the greatest finite float to the power of two that follows it. -/
def overflowBound : Nat := (2 ^ 54 - 1) * 2 ^ 970

/-! ### Packed floats -/

/-- Zeros and what has an exponent of a finite float. -/
def InRange : UnpackedFloat → Prop
  | .zero _ => True
  | .finite _ _ e _ => e ≤ 971
  | _ => False

theorem isFinite_iff (x : Float) :
    isFinite x = true ↔ x.toBits.toNat / 2 ^ 52 % 2 ^ 11 ≠ 2047 := by
  have hsize : significandSize = 2 ^ 52 := rfl
  have hexponents : Nat.pow 2 11 = 2 ^ 11 := rfl
  rw [isFinite, Binary64.ofFloat, Binary64.ofBits, hsize, hexponents]
  by_cases hlimit : x.toBits.toNat / 2 ^ 52 % 2 ^ 11 = 2047
  · rw [if_pos hlimit]
    split
    · next hfinite =>
      split at hfinite <;> contradiction
    · simp only [hlimit, ne_eq, not_true_eq_false, Bool.false_eq_true]
  · rw [if_neg hlimit]
    split
    · simp only [hlimit, ne_eq, not_false_eq_true]
    · next hother =>
      split at hother <;> exact absurd rfl (hother _)

theorem isFinite_packComponents {ev : BitVec 11} {mv : BitVec 52}
    (h : UnpackedFloat.pack .binary64 u = packComponents .binary64 s ev mv) :
    isFinite (.ofModel (Float.Model.pack u)) = true ↔ ev.toNat ≠ 2047 := by
  have hbits : (Float.ofModel (Float.Model.pack u)).toBits.toNat =
      s.toBitVec.toNat * 2 ^ 63 + (ev.toNat * 2 ^ 52 + mv.toNat) := by
    rw [← toNat_packComponents, ← h]
    rfl
  have hev := ev.isLt
  have hmv := mv.isLt
  have hexponent : (s.toBitVec.toNat * 2 ^ 63 + (ev.toNat * 2 ^ 52 + mv.toNat)) / 2 ^ 52 % 2 ^ 11 =
      ev.toNat := by
    omega
  rw [isFinite_iff, hbits, hexponent]

theorem isFinite_pack (u : UnpackedFloat) :
    isFinite (.ofModel (Float.Model.pack u)) = true ↔ InRange u := by
  have hall : (-1#11).toNat = 2047 := rfl
  cases u with
  | notANumber =>
    have hpack : UnpackedFloat.pack .binary64 .notANumber =
        packComponents .binary64 .positive (-1#11) (1#52 <<< 51) := rfl
    rw [isFinite_packComponents hpack]
    exact iff_of_false (not_not.mpr hall) id
  | infinity s =>
    have hpack : UnpackedFloat.pack .binary64 (.infinity s) =
        packComponents .binary64 s (-1#11) 0#52 := rfl
    rw [isFinite_packComponents hpack]
    exact iff_of_false (not_not.mpr hall) id
  | zero s =>
    have hpack : UnpackedFloat.pack .binary64 (.zero s) =
        packComponents .binary64 s 0#11 0#52 := rfl
    rw [isFinite_packComponents hpack]
    exact iff_of_true (by decide) trivial
  | finite s m e hpos =>
    show _ ↔ e ≤ 971
    by_cases hlimit : 2048 ≤ (e + (1023 : Nat) + (52 : Nat)).toNat + 1
    · have hpack : UnpackedFloat.pack .binary64 (.finite s m e hpos) =
          packComponents .binary64 s (-1#11) 0#52 := if_pos hlimit
      rw [isFinite_packComponents hpack]
      exact iff_of_false (not_not.mpr hall) (by omega)
    · by_cases hfull : m.log2 + 1 = 53
      · have hpack : UnpackedFloat.pack .binary64 (.finite s m e hpos) =
            packComponents .binary64 s
              (BitVec.ofNat 11 (e + (1023 : Nat) + (52 : Nat)).toNat) (BitVec.ofNat 52 m) :=
          (if_neg hlimit).trans (if_pos hfull)
        rw [isFinite_packComponents hpack, BitVec.toNat_ofNat]
        omega
      · have hpack : UnpackedFloat.pack .binary64 (.finite s m e hpos) =
            packComponents .binary64 s 0#11 (BitVec.ofNat 52 m) :=
          (if_neg hlimit).trans (if_neg hfull)
        rw [isFinite_packComponents hpack]
        exact iff_of_true (by decide) (by omega)

theorem toNat_unpackExponent (b : BitVec 64) :
    (@unpackExponent .binary64 b).toNat = b.toNat / 2 ^ 52 % 2 ^ 11 := by
  show (BitVec.extractLsb 62 52 b).toNat = _
  rw [BitVec.extractLsb_toNat, Nat.shiftRight_eq_div_pow]

/-- A float is finite as it is unpacked. -/
theorem isFinite_iff_unpack (x : Float) : isFinite x = true ↔ InRange x.toModel.unpack := by
  let b : BitVec Format.binary64.numBits := x.toModel.toBits.toBitVec
  have hexponent : (unpackExponent b).toNat = x.toBits.toNat / 2 ^ 52 % 2 ^ 11 :=
    toNat_unpackExponent b
  have hbound : (unpackExponent b).toNat < 2 ^ 11 := (unpackExponent b).isLt
  have hall : (-1#11).toNat = 2047 := rfl
  rw [isFinite_iff, ← hexponent]
  show _ ↔ InRange (UnpackedFloat.unpack .binary64 b)
  by_cases hlimit : unpackExponent b = -1#11
  · have hunpack : UnpackedFloat.unpack .binary64 b =
        if unpackMantissa b = 0#52 then .infinity (Sign.ofBitVec (unpackSign b))
        else .notANumber := if_pos hlimit
    rw [hunpack, hlimit]
    refine iff_of_false (not_not.mpr hall) ?_
    split <;> exact id
  · have hother : (unpackExponent b).toNat ≠ 2047 := fun h => hlimit (BitVec.eq_of_toNat_eq h)
    refine iff_of_true hother ?_
    by_cases hzero : unpackExponent b = 0#11
    · have hnone : (unpackExponent b).toNat = 0 := congrArg BitVec.toNat hzero
      by_cases hmantissa : unpackMantissa b = 0#52
      · have hunpack : UnpackedFloat.unpack .binary64 b = .zero (Sign.ofBitVec (unpackSign b)) :=
          (if_neg hlimit).trans ((if_pos hzero).trans (dif_pos hmantissa))
        rw [hunpack]
        trivial
      · obtain ⟨s, m, hpos, hunpack⟩ : ∃ s m hpos, UnpackedFloat.unpack .binary64 b =
            .finite s m (((unpackExponent b).toNat : Int) - (1023 + 52) + 1) hpos :=
          ⟨_, _, _, (if_neg hlimit).trans ((if_pos hzero).trans (dif_neg hmantissa))⟩
        rw [hunpack]
        show ((unpackExponent b).toNat : Int) - (1023 + 52) + 1 ≤ 971
        omega
    · obtain ⟨s, m, hpos, hunpack⟩ : ∃ s m hpos, UnpackedFloat.unpack .binary64 b =
          .finite s m (((unpackExponent b).toNat : Int) - (1023 + 52)) hpos :=
        ⟨_, _, _, (if_neg hlimit).trans (if_neg hzero)⟩
      rw [hunpack]
      show ((unpackExponent b).toNat : Int) - (1023 + 52) ≤ 971
      omega

theorem isFinite_neg (x : Float) : isFinite (-x) = isFinite x := by
  have hneg (u : UnpackedFloat) : InRange u.neg ↔ InRange u := by cases u <;> exact Iff.rfl
  rw [Bool.eq_iff_iff, isFinite_iff_unpack x]
  exact (isFinite_pack _).trans (hneg _)

/-! ### Rounded quotients -/

/-- A quotient is rounded to less than an even number up to half way below that number. -/
theorem roundDiv_lt_iff (num : Nat) (hden : 0 < den) (hk : k % 2 = 0) :
    roundDiv num den < k ↔ 2 * num < (2 * k - 1) * den := by
  have hsplit : den * (num / den) + num % den = num := Nat.div_add_mod num den
  have hrest : num % den < den := Nat.mod_lt num hden
  have hscaled (a b : Nat) (h : a ≤ b) : den * a ≤ den * b := Nat.mul_le_mul_left den h
  rw [Nat.mul_comm _ den]
  rcases Nat.lt_trichotomy (num / den + 1) k with hless | hsame | hmore
  · have hround := (roundDiv_bounds num den).2
    have hmost := hscaled (2 * (num / den) + 2) (2 * k - 1) (by omega)
    rw [Nat.mul_add, Nat.mul_left_comm] at hmost
    exact iff_of_true (by omega) (by omega)
  · have hodd : 2 * k - 1 = 2 * (num / den) + 1 := by omega
    rw [hodd, Nat.mul_add, Nat.mul_left_comm, Nat.mul_one, roundDiv]
    split
    · omega
    · split <;> omega
  · have hround := (roundDiv_bounds num den).1
    have hleast := hscaled (2 * k - 1) (2 * (num / den)) (by omega)
    rw [Nat.mul_left_comm] at hleast
    exact iff_of_false (by omega) (by omega)

/-- What was rounded to 53 digits at most is in range up to the greatest exponent. At that exponent
a carry into one more digit is too much. -/
theorem inRange_of_shift {m r : Nat} {e e' : Int} {a : Accuracy} {em : ExtendedMantissa} (s : Sign)
    (hshift : shiftToTargetExponent .binary64 m e a = (em, e')) (hround : em.roundedMantissa = r)
    (hr : r ≤ 2 ^ 53) (he : -1074 ≤ e') :
    InRange (roundWithAccuracy .binary64 s m e a) ↔
      r = 0 ∨ e' ≤ 970 ∨ (e' = 971 ∧ r < 2 ^ 53) := by
  rw [roundWithAccuracy, hshift]
  dsimp only
  rw [hround]
  by_cases hcarry : r = 2 ^ 53
  · subst hcarry
    have hlog : (2 ^ 53 : Nat).log2 = 52 + 1 := by decide
    rw [shiftToTargetExponent_eq hlog (by omega)]
    show e' + 1 ≤ 971 ↔ _
    omega
  · have hlog : r ≠ 0 → r.log2 < 53 := fun hne => (Nat.log2_lt hne).mpr (by omega)
    obtain ⟨j, hj, hfinal⟩ := exists_shiftToTargetExponent r e' .exact
    obtain rfl : j = 0 := by
      by_cases hzero : r = 0
      · rw [hzero, Nat.log2_zero] at hj
        omega
      · have := hlog hzero
        omega
    rw [hfinal]
    show InRange (if h : r = 0 then UnpackedFloat.zero s else .finite s r (e' + (0 : Nat)) _) ↔ _
    by_cases hzero : r = 0
    · rw [dif_pos hzero]
      exact iff_of_true trivial (.inl hzero)
    · rw [dif_neg hzero]
      show e' + (0 : Nat) ≤ 971 ↔ _
      omega

/-- A quotient lies between the powers of two that its digits tell. -/
theorem div_log2_bounds (num : Nat) (hden : 0 < den) :
    (0 < (num / den).log2 → den * 2 ^ (num / den).log2 ≤ num) ∧
      num < den * 2 ^ ((num / den).log2 + 1) := by
  constructor
  · intro hpos
    have hne : num / den ≠ 0 := by
      intro hzero
      rw [hzero, Nat.log2_zero] at hpos
      omega
    exact Nat.le_trans (Nat.mul_le_mul_left den (Nat.log2_self_le hne)) (Nat.mul_div_le num den)
  · exact Nat.lt_of_lt_of_le (Nat.lt_mul_div_succ num hden)
      (Nat.mul_le_mul_left den Nat.lt_log2_self)

/-- A quotient in units of two to the power `-q` is finite as a float below the bound. -/
theorem inRange_roundWithAccuracy (s : Sign) (num q : Nat) (hden : 0 < den) :
    InRange (roundWithAccuracy .binary64 s (num / den) (-(q : Int))
      (accuracyOfFraction (num % den) den)) ↔ num < overflowBound * (den * 2 ^ q) := by
  obtain ⟨j, hj, hshift⟩ := exists_shiftToTargetExponent (num / den) (-(q : Int))
    (accuracyOfFraction (num % den) den)
  have hunit : 0 < den * 2 ^ j := Nat.mul_pos hden (Nat.two_pow_pos j)
  have hround := ((cutQuotient_ofFraction num hden).shiftRight hden j).roundedMantissa hunit
  have hpow {a b : Nat} (h : a ≤ b) : den * 2 ^ a ≤ den * 2 ^ b :=
    Nat.mul_le_mul_left den (Nat.pow_le_pow_right Nat.two_pos h)
  have hscaled (a b : Nat) : den * 2 ^ (a + b) = 2 ^ a * (den * 2 ^ b) := by
    rw [Nat.pow_add, Nat.mul_left_comm]
  obtain ⟨hlow, hhigh⟩ := div_log2_bounds num hden
  have hr : roundDiv num (den * 2 ^ j) ≤ 2 ^ 53 := by
    have hbits := hpow (show (num / den).log2 + 1 ≤ 53 + j by omega)
    rw [hscaled 53 j] at hbits
    exact roundDiv_le_of_le hunit (by omega)
  have hbound : overflowBound * (den * 2 ^ q) = (2 ^ 54 - 1) * (den * 2 ^ (970 + q)) := by
    rw [hscaled 970 q, overflowBound, Nat.mul_assoc]
  rw [inRange_of_shift s hshift hround hr (by omega), hbound]
  rcases Int.lt_trichotomy (-(q : Int) + j) 971 with hless | hsame | hmore
  · have hbits := hpow (show (num / den).log2 + 1 ≤ 53 + (970 + q) by omega)
    rw [hscaled 53 (970 + q)] at hbits
    exact iff_of_true (.inr (.inl (by omega))) (by omega)
  -- At the greatest exponent it is the rounding that decides.
  · obtain rfl : j = 1 + (970 + q) := by omega
    have hdecides := roundDiv_lt_iff num hunit (show 2 ^ 53 % 2 = 0 by decide)
    rw [hscaled 1 (970 + q)] at hdecides ⊢
    omega
  · have hbits := hpow (show 54 + (970 + q) ≤ (num / den).log2 by omega)
    rw [hscaled 54 (970 + q)] at hbits
    have hleast := hlow (by omega)
    have hdigits : 52 + j = (num / den).log2 := by omega
    have hrounded : 2 ^ 52 ≤ roundDiv num (den * 2 ^ j) := by
      refine le_roundDiv_of_le hunit ?_
      rw [← hscaled 52 j, hdigits]
      exact hleast
    exact iff_of_false (by omega) (by omega)

/-! ### Decimals -/

/-- A division of floats rounds the quotient of their mantissas, in units that are small enough. -/
theorem exists_inRange_div {s t : Sign} {m₁ m₂ : Nat} {e₁ e₂ : Int} (h₁ : 0 < m₁) (h₂ : 0 < m₂)
    (hunits : e₁ - e₂ ≤ 0 ∨ totalExponent m₁ e₁ - totalExponent m₂ e₂ ≤ 53) :
    ∃ i q : Nat, (i : Int) = e₁ - e₂ + q ∧
      (InRange (UnpackedFloat.div .binary64 (.finite s m₁ e₁ h₁) (.finite t m₂ e₂ h₂)) ↔
        m₁ * 2 ^ i < overflowBound * (m₂ * 2 ^ q)) := by
  obtain ⟨unit, hunit⟩ : ∃ unit, unit = min (e₁ - e₂)
    (Format.binary64.targetExponent (totalExponent m₁ e₁ - totalExponent m₂ e₂)) := ⟨_, rfl⟩
  have hdiv : UnpackedFloat.div .binary64 (.finite s m₁ e₁ h₁) (.finite t m₂ e₂ h₂) =
      roundWithAccuracy .binary64 (s / t) (m₁ <<< (e₁ - e₂ - unit).toNat / m₂) unit
        (accuracyOfFraction (m₁ <<< (e₁ - e₂ - unit).toNat % m₂) m₂) := by
    rw [hunit]
    rfl
  rw [targetExponent_eq] at hunit
  obtain ⟨q, rfl⟩ : ∃ q : Nat, unit = -(q : Int) := ⟨(-unit).toNat, by omega⟩
  refine ⟨(e₁ - e₂ - -(q : Int)).toNat, q, by omega, ?_⟩
  rw [hdiv, inRange_roundWithAccuracy _ _ _ h₂, Nat.shiftLeft_eq]

theorem overflowBound_pos : 0 < overflowBound := by decide +kernel

theorem lt_overflowBound_mul (h : n < 10 ^ k) : n < overflowBound * 10 ^ k :=
  Nat.lt_of_lt_of_le h (Nat.le_mul_of_pos_left _ overflowBound_pos)

/-- Digits without a point are multiplied by a power of two, which changes nothing. -/
theorem inRange_ofScientific_zero (hn : n ≠ 0) :
    InRange (UnpackedFloat.ofScientific .binary64 n 0) ↔ n < overflowBound := by
  have hround := inRange_roundWithAccuracy .positive (n * 2 ^ 53) 53 Nat.one_pos
  generalize overflowBound = b at hround ⊢
  rw [Nat.one_mul, Nat.mul_lt_mul_right (Nat.two_pow_pos 53), Nat.div_one, Nat.mod_one] at hround
  rw [ofScientific_zero hn, Nat.mul_one]
  exact hround

/-- Digits and a number of places behind the point, as the quotient that they are. -/
theorem inRange_ofScientific (hn : n ≠ 0) (hk : 0 < k) :
    InRange (UnpackedFloat.ofScientific .binary64 n (-(k : Int))) ↔ n < overflowBound * 10 ^ k := by
  have hpositive : ¬ -(k : Int) > 2 ^ Format.binary64.exponentBits := by
    show ¬ -(k : Int) > 2 ^ 11
    omega
  by_cases hdeep : -(k : Int) < -(2 ^ Format.binary64.exponentBits + (n.log2 : Int))
  · rw [UnpackedFloat.ofScientific, dif_neg hn, if_neg hpositive, if_pos hdeep]
    refine iff_of_true trivial (lt_overflowBound_mul ?_)
    have hplaces : n.log2 + 1 ≤ k := by
      have hlimit : -(k : Int) < -(2 ^ 11 + (n.log2 : Int)) := hdeep
      omega
    calc
      n < 2 ^ (n.log2 + 1) := Nat.lt_log2_self
      _ ≤ 2 ^ k := Nat.pow_le_pow_right Nat.two_pos hplaces
      _ ≤ 10 ^ k := Nat.pow_le_pow_left (by decide) k
  · obtain ⟨w, hw⟩ : ∃ w, w = (-(-(k : Int))).toNat := ⟨_, rfl⟩
    have hbound : n < overflowBound * 10 ^ w ↔ n < overflowBound * 10 ^ k := by
      rw [show w = k by omega]
    obtain ⟨i, q, hi, hdiv⟩ := @exists_inRange_div .positive .positive n (10 ^ w) 0 0
      (Nat.pos_of_ne_zero hn) (Nat.pow_pos (by decide)) (.inl (Int.le_refl _))
    obtain rfl : i = q := by omega
    rw [← Nat.mul_assoc, Nat.mul_lt_mul_right (Nat.two_pow_pos i)] at hdiv
    rw [UnpackedFloat.ofScientific, dif_neg hn, if_neg hpositive, if_neg hdeep, if_neg (by omega),
      ← hbound, ← hdiv, hw]

/-- Whether a float has a full significand and is at least one. -/
def isLeastOne : UnpackedFloat → Bool
  | .finite _ m e _ => 2 ^ 52 ≤ m && m < 2 ^ 53 && -52 ≤ e
  | _ => false

theorem isLeastOne_power :
    ∀ (k : Nat) (h : k < Float.exactlyRepresentablePowersOfTen.size),
      isLeastOne (Float.exactlyRepresentablePowersOfTen[k]).toModel.unpack = true := by
  decide

/-- A whole number with few digits stays finite when it is divided by one or more. -/
theorem inRange_div_of_isLeastOne {u v : UnpackedFloat} (hn : n < 2 ^ 53)
    (hu : IsNormal .positive (wholeKey n) u) (hv : isLeastOne v = true) :
    InRange (UnpackedFloat.div .binary64 u v) := by
  obtain ⟨m₁, e₁, h₁, rfl, hlow, hhigh, -, -, hkey⟩ := hu
  have hmost : wholeKey n ≤ wholeKey (2 ^ 53 - 1) := wholeKey_mono (Nat.le_pred_of_lt hn)
  have hgreatest : wholeKey (2 ^ 53 - 1) < 1076 * 2 ^ 52 := by decide
  match v, hv with
  | .finite t m₂ e₂ h₂, hv =>
    have hparts : (decide (2 ^ 52 ≤ m₂) && decide (m₂ < 2 ^ 53) && decide (-52 ≤ e₂)) = true := hv
    simp only [Bool.and_eq_true, decide_eq_true_eq] at hparts
    obtain ⟨⟨hlow', hhigh'⟩, he₂⟩ := hparts
    have hdigits : m₁.log2 = 52 := log2_of_bounds hlow hhigh
    have hdigits' : m₂.log2 = 52 := log2_of_bounds hlow' hhigh'
    obtain ⟨i, q, hi, hdiv⟩ := @exists_inRange_div .positive t m₁ m₂ e₁ e₂ h₁ h₂ (.inr (by
      rw [totalExponent, totalExponent]
      omega))
    have hbound : 2 ^ 53 * 2 ^ 52 ≤ overflowBound := by decide +kernel
    rw [hdiv]
    calc
      m₁ * 2 ^ i < 2 ^ 53 * 2 ^ i := Nat.mul_lt_mul_of_pos_right hhigh (Nat.two_pow_pos i)
      _ ≤ 2 ^ 53 * 2 ^ (52 + q) :=
        Nat.mul_le_mul_left _ (Nat.pow_le_pow_right Nat.two_pos (by omega))
      _ = 2 ^ 53 * 2 ^ 52 * 2 ^ q := by rw [Nat.pow_add, Nat.mul_assoc]
      _ ≤ overflowBound * (m₂ * 2 ^ q) :=
        Nat.mul_le_mul hbound (Nat.le_mul_of_pos_left _ h₂)

theorem isFinite_ofScientific_zero (hn : n ≠ 0) :
    isFinite (Float.ofScientific n false 0) = true ↔ n < overflowBound := by
  have hbound : 2 ^ 53 ≤ overflowBound := by decide +kernel
  by_cases hsmall : n < 2 ^ 53
  · exact iff_of_true (isNearest_ofNat (by omega)).isFinite (by omega)
  · rw [Float.ofScientific, dif_neg fun h => hsmall h.1, if_neg Bool.false_ne_true]
    exact (isFinite_pack _).trans (inRange_ofScientific_zero hn)

theorem isFinite_ofScientific (hn : n ≠ 0) (hk : 0 < k) :
    isFinite (Float.ofScientific n true k) = true ↔ n < overflowBound * 10 ^ k := by
  by_cases hsmall : n < 2 ^ 53 ∧ k ≤ 22
  · have hsize : k < Float.exactlyRepresentablePowersOfTen.size :=
      Nat.lt_of_le_of_lt hsmall.2 (by decide)
    have hword : n.toUInt64.toNat = n := by
      show n % 2 ^ 64 = n
      omega
    have hx := isNormal_ofNat_small hn hsmall.1
    have hbound : 2 ^ 53 ≤ overflowBound * 10 ^ k :=
      Nat.le_trans (by decide +kernel) (Nat.le_mul_of_pos_right _ (Nat.pow_pos (by decide)))
    refine iff_of_true ?_ (Nat.lt_of_lt_of_le hsmall.1 hbound)
    rw [Float.ofScientific, dif_pos hsmall, if_pos rfl]
    show isFinite (Float.ofModel (Float.Model.pack (UnpackedFloat.div .binary64
      (Float.Model.pack (UnpackedFloat.ofNat .binary64 n.toUInt64.toNat)).unpack
      (Float.exactlyRepresentablePowersOfTen[k]).toModel.unpack))) = true
    rw [hword, hx.unpack_pack, isFinite_pack]
    exact inRange_div_of_isLeastOne hsmall.1 hx (isLeastOne_power k hsize)
  · have hnegative : Int.negOfNat k = -(k : Int) := Int.negOfNat_eq
    rw [Float.ofScientific, dif_neg hsmall, if_pos rfl]
    show isFinite (Float.ofModel (Float.Model.pack
      (UnpackedFloat.ofScientific .binary64 n (Int.negOfNat k)))) = true ↔ _
    rw [isFinite_pack, hnegative, inRange_ofScientific hn hk]

/-- The number of digits of a number tells it up to a factor of ten. -/
theorem digitChars_bounds (hn : n ≠ 0) :
    ∃ l, (digitChars n).length = l + 1 ∧ 10 ^ l ≤ n ∧ n < 10 ^ (l + 1) := by
  have hpos : 0 < (digitChars n).length := List.length_pos_iff.mpr Nat.toDigits_ne_nil
  obtain ⟨l, hl⟩ : ∃ l, (digitChars n).length = l + 1 := ⟨_, (Nat.sub_add_cancel hpos).symm⟩
  have hiff (w : Nat) (hw : 0 < w) : (digitChars n).length ≤ w ↔ n < 10 ^ w :=
    Nat.length_toDigits_le_iff (by decide) hw
  refine ⟨l, hl, ?_, (hiff (l + 1) (Nat.succ_pos l)).mp (Nat.le_of_eq hl)⟩
  cases l with
  | zero => exact Nat.one_le_iff_ne_zero.mpr hn
  | succ l =>
    have hmore := mt (hiff (l + 1) (Nat.succ_pos l)).mpr (by omega)
    omega

/-- A decimal is finite as a float as long as it lies below the bound. -/
theorem isFinite_nearest (n k : Nat) :
    isFinite (nearest ⟨n, -(k : Int)⟩) = true ↔ n < overflowBound * 10 ^ k := by
  have hzero : isFinite 0.0 = true := by decide
  have hinfinite : isFinite (1.0 / 0.0) = false := by decide
  by_cases hn : n = 0
  · subst hn
    exact iff_of_true hzero (lt_overflowBound_mul (Nat.pow_pos (by decide)))
  obtain ⟨l, hl, hlow, hhigh⟩ := digitChars_bounds hn
  have hleading : leadingExponent ⟨n, -(k : Int)⟩ = (l : Int) - k := by
    rw [leadingExponent, hl]
    dsimp only
    omega
  rw [nearest, hleading]
  simp only [hn, decide_false, Bool.false_or, decide_eq_true_eq]
  split
  · next hsmall =>
    have hpower : 10 ^ (l + 1) ≤ 10 ^ k := Nat.pow_le_pow_right (by decide) (by omega)
    exact iff_of_true hzero (lt_overflowBound_mul (Nat.lt_of_lt_of_le hhigh hpower))
  · split
    · next hgreat =>
      obtain ⟨w, hw, hbound⟩ : ∃ w, w = 400 ∧ overflowBound ≤ 10 ^ w :=
        ⟨400, rfl, by decide +kernel⟩
      have hpower : 10 ^ (w + k) ≤ 10 ^ l := Nat.pow_le_pow_right (by decide) (by omega)
      have hscaled := Nat.mul_le_mul_right (10 ^ k) hbound
      rw [← Nat.pow_add] at hscaled
      rw [hinfinite]
      exact iff_of_false Bool.false_ne_true (by omega)
    · split
      · next hplaces =>
        rw [Int.neg_neg, Int.toNat_natCast, isFinite_ofScientific hn (by omega)]
      · next hplaces =>
        obtain rfl : k = 0 := by omega
        have hround := isFinite_ofScientific_zero hn
        rw [Nat.pow_zero, Nat.mul_one]
        exact hround

end Stencil.Decimal
