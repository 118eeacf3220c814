import Mathlib.Algebra.Order.Ring.Int
import Stencil.Number
import Stencil.Decimal.Fixed

/-!
The order of whole numbers as floats. A whole number of 64 bits becomes the float that is nearest to
it, and the place of that float in the order of floats can be read off the number: it is given by
its first 53 binary digits, rounded, and by their number. So turning integers into floats keeps
their order, though not their differences.
-/
namespace Stencil.Decimal

open Float.Model Float.Model.UnpackedFloat

/-! ### Rounding -/

section Rounding

variable {a b num den q : Nat}

theorem roundDiv_eq_of_exact (hden : 0 < den) : roundDiv (q * den) den = q := by
  have hquot : q * den / den = q := Nat.mul_div_cancel q hden
  have hrem : q * den % den = 0 := Nat.mul_mod_left q den
  rw [roundDiv, hquot, hrem, Nat.mul_zero, if_pos hden]

theorem roundDiv_mul_right (hc : 0 < b) : roundDiv (num * b) (den * b) = roundDiv num den := by
  have hquot : num * b / (den * b) = num / den := Nat.mul_div_mul_right num den hc
  have hrem : num * b % (den * b) = num % den * b := Nat.mul_mod_mul_right b num den
  have hbelow : 2 * (num % den * b) < den * b ↔ 2 * (num % den) < den := by
    rw [← Nat.mul_assoc]
    exact Nat.mul_lt_mul_right hc
  have habove : den * b < 2 * (num % den * b) ↔ den < 2 * (num % den) := by
    rw [← Nat.mul_assoc]
    exact Nat.mul_lt_mul_right hc
  simp only [roundDiv, hquot, hrem, hbelow, habove]

/-- A quotient is rounded to itself or to the next whole number. -/
theorem roundDiv_bounds (num den : Nat) :
    num / den ≤ roundDiv num den ∧ roundDiv num den ≤ num / den + 1 := by
  unfold roundDiv
  dsimp only
  split
  · omega
  · split <;> omega

theorem roundDiv_mono (den : Nat) (h : a ≤ b) : roundDiv a den ≤ roundDiv b den := by
  have hquot : a / den ≤ b / den := Nat.div_le_div_right h
  have ha := roundDiv_bounds a den
  have hb := roundDiv_bounds b den
  by_cases hsame : a / den = b / den
  · have hrem : a % den ≤ b % den := by
      have hda := Nat.div_add_mod a den
      have hdb := Nat.div_add_mod b den
      rw [← hsame] at hdb
      omega
    unfold roundDiv
    dsimp only
    rw [← hsame]
    repeat' split
    all_goals omega
  · omega

theorem roundDiv_le_of_le (hden : 0 < den) (h : num ≤ q * den) : roundDiv num den ≤ q :=
  Nat.le_trans (roundDiv_mono den h) (Nat.le_of_eq (roundDiv_eq_of_exact hden))

theorem le_roundDiv_of_le (hden : 0 < den) (h : q * den ≤ num) : q ≤ roundDiv num den :=
  Nat.le_trans (Nat.le_of_eq (roundDiv_eq_of_exact hden).symm) (roundDiv_mono den h)

end Rounding

/-! ### Shifting -/

/-- What is kept of a quotient that is cut off to a whole number: whether its rest is a half or
more, and whether it is neither nothing nor exactly a half. -/
structure CutQuotient (em : ExtendedMantissa) (num den : Nat) : Prop where
  mantissa : em.mantissa = num / den
  round : em.roundBit = decide (den ≤ 2 * (num % den))
  sticky : em.stickyBit = decide (num % den ≠ 0 ∧ 2 * (num % den) ≠ den)

theorem cutQuotient_ofFraction {den : Nat} (num : Nat) (hden : 0 < den) :
    CutQuotient (.ofMantissaAndAccuracy (num / den) (accuracyOfFraction (num % den) den))
      num den := by
  rw [accuracyOfFraction]
  split
  · next hzero => exact ⟨rfl, (decide_eq_false (by omega)).symm, (decide_eq_false (by omega)).symm⟩
  · next hrest =>
    cases hcompare : compare (2 * (num % den)) den with
    | lt =>
      have hbelow := Nat.compare_eq_lt.mp hcompare
      exact ⟨rfl, (decide_eq_false (by omega)).symm, (decide_eq_true (by omega)).symm⟩
    | eq =>
      have htie := Nat.compare_eq_eq.mp hcompare
      exact ⟨rfl, (decide_eq_true (by omega)).symm, (decide_eq_false (by omega)).symm⟩
    | gt =>
      have habove := Nat.compare_eq_gt.mp hcompare
      exact ⟨rfl, (decide_eq_true (by omega)).symm, (decide_eq_true (by omega)).symm⟩

theorem cutQuotient_exact (m : Nat) : CutQuotient ⟨m, false, false⟩ m 1 := by
  have hrest : m % 1 = 0 := Nat.mod_one m
  exact ⟨(Nat.div_one m).symm, (decide_eq_false (by omega)).symm, (decide_eq_false (by omega)).symm⟩

section CutQuotient

variable {em : ExtendedMantissa} {num den : Nat}

/-- The digit that is shifted out is the half of the new quotient, and the rest goes below it. -/
theorem CutQuotient.shiftRightOne (h : CutQuotient em num den) (hden : 0 < den) :
    CutQuotient em.shiftRightOne num (den * 2) := by
  obtain ⟨hmantissa, hround, hsticky⟩ := h
  have hrest : num % den < den := Nat.mod_lt num hden
  have hrem : num % (den * 2) = num % den + den * (num / den % 2) := Nat.mod_mul
  refine ⟨?_, ?_, ?_⟩
  · rw [ExtendedMantissa.shiftRightOne, hmantissa, Nat.div_div_eq_div_mul]
  · show (em.mantissa % 2 != 0) = _
    rw [hmantissa, hrem]
    rcases Nat.mod_two_eq_zero_or_one (num / den) with hbit | hbit
    · rw [hbit]
      exact (decide_eq_false (by omega)).symm
    · rw [hbit]
      exact (decide_eq_true (by omega)).symm
  · show (em.roundBit || em.stickyBit) = _
    rw [hround, hsticky, ← Bool.decide_or, hrem]
    apply decide_eq_decide.mpr
    rcases Nat.mod_two_eq_zero_or_one (num / den) with hbit | hbit
    · rw [hbit]
      omega
    · rw [hbit]
      omega

theorem CutQuotient.shiftRight (h : CutQuotient em num den) (hden : 0 < den) (k : Nat) :
    CutQuotient (em >>> k) num (den * 2 ^ k) := by
  induction k with
  | zero =>
    rw [Nat.pow_zero, Nat.mul_one]
    exact h
  | succ k ih =>
    rw [Nat.pow_succ, ← Nat.mul_assoc]
    exact ih.shiftRightOne (Nat.mul_pos hden (Nat.two_pow_pos k))

/-- Rounding what was kept is rounding the quotient. -/
theorem CutQuotient.roundedMantissa (h : CutQuotient em num den) (hden : 0 < den) :
    em.roundedMantissa = roundDiv num den := by
  obtain ⟨m, r, t⟩ := em
  obtain ⟨rfl, rfl, rfl⟩ := h
  rw [ExtendedMantissa.roundedMantissa, roundDiv]
  dsimp only
  by_cases hhalf : den ≤ 2 * (num % den)
  · by_cases htie : 2 * (num % den) = den
    · have hround : decide (den ≤ 2 * (num % den)) = true := decide_eq_true hhalf
      have hsticky : decide (num % den ≠ 0 ∧ 2 * (num % den) ≠ den) = false :=
        decide_eq_false fun h => h.2 htie
      rw [hround, hsticky, if_neg (by omega), if_neg (by omega)]
      rfl
    · have hround : decide (den ≤ 2 * (num % den)) = true := decide_eq_true hhalf
      have hsticky : decide (num % den ≠ 0 ∧ 2 * (num % den) ≠ den) = true :=
        decide_eq_true ⟨by omega, htie⟩
      rw [hround, hsticky, if_neg (by omega), if_pos (by omega)]
      rfl
  · have hround : decide (den ≤ 2 * (num % den)) = false := decide_eq_false hhalf
    rw [hround, if_pos (by omega)]
    cases decide (num % den ≠ 0 ∧ 2 * (num % den) ≠ den) <;> rfl

end CutQuotient

/-- Rounding what was shifted is rounding a quotient. -/
theorem roundedMantissa_shiftRight (m k : Nat) :
    ((⟨m, false, false⟩ : ExtendedMantissa) >>> k).roundedMantissa = roundDiv m (2 ^ k) := by
  have hcut := (cutQuotient_exact m).shiftRight Nat.one_pos k
  rw [Nat.one_mul] at hcut
  exact hcut.roundedMantissa (Nat.two_pow_pos k)

theorem targetExponent_eq (t : Int) : Format.binary64.targetExponent t = max (t - 53) (-1074) := rfl

theorem log2_mono {m n : Nat} (hm : m ≠ 0) (h : m ≤ n) : m.log2 ≤ n.log2 := by
  rw [Nat.le_log2 (by omega)]
  exact Nat.le_trans ((Nat.le_log2 hm).mp (Nat.le_refl _)) h

/-- Rounding to 53 digits keeps their number or gives the least number with one more. -/
theorem roundDiv_of_log2 {m k : Nat} (h : m ≠ 0) (hm : m.log2 = 52 + k) :
    2 ^ 52 ≤ roundDiv m (2 ^ k) ∧ roundDiv m (2 ^ k) ≤ 2 ^ 53 := by
  obtain ⟨hlow, hhigh⟩ := (Nat.log2_eq_iff h).mp hm
  have hpos : 0 < 2 ^ k := Nat.two_pow_pos k
  rw [Nat.pow_add] at hlow
  rw [Nat.add_right_comm, Nat.pow_add] at hhigh
  exact ⟨le_roundDiv_of_le hpos hlow, roundDiv_le_of_le hpos (Nat.le_of_lt hhigh)⟩

theorem log2_of_bounds {m k : Nat} (hlow : 2 ^ k ≤ m) (hhigh : m < 2 ^ (k + 1)) : m.log2 = k := by
  have hne : m ≠ 0 := by
    have := Nat.two_pow_pos k
    omega
  exact (Nat.log2_eq_iff hne).mpr ⟨hlow, hhigh⟩

theorem log2_mul_two_pow {n : Nat} (h : n ≠ 0) (k : Nat) : (n * 2 ^ k).log2 = n.log2 + k := by
  obtain ⟨hlow, hhigh⟩ := (Nat.log2_eq_iff h).mp rfl
  refine log2_of_bounds ?_ ?_
  · rw [Nat.pow_add]
    exact Nat.mul_le_mul_right _ hlow
  · rw [show n.log2 + k + 1 = n.log2 + 1 + k by omega, Nat.pow_add]
    exact Nat.mul_lt_mul_of_pos_right hhigh (Nat.two_pow_pos k)

/-- A number with a full significand. Its key orders such numbers: the significand is below, the
exponent above the place of the leading digit. -/
def IsNormal (s : Sign) (key : Int) (x : UnpackedFloat) : Prop :=
  ∃ (m : Nat) (e : Int) (h : 0 < m), x = .finite s m e h ∧ 2 ^ 52 ≤ m ∧ m < 2 ^ 53 ∧
    -1074 ≤ e ∧ e ≤ 971 ∧ key = (e + 1074) * 2 ^ 52 + m

variable {s : Sign} {key : Int} {x : UnpackedFloat}

/-- Shifting to the target exponent leaves at most 53 digits and at least the least exponent. -/
theorem exists_shiftToTargetExponent (m : Nat) (e : Int) (a : Accuracy) :
    ∃ j : Nat, (j : Int) = max 0 (max ((m.log2 : Int) - 52) (-1074 - e)) ∧
      shiftToTargetExponent .binary64 m e a =
        (ExtendedMantissa.ofMantissaAndAccuracy m a >>> j, e + j) := by
  refine ⟨(Format.binary64.targetExponent (totalExponent m e) - e).toNat, ?_, rfl⟩
  rw [targetExponent_eq, totalExponent]
  omega

/-- Shifting a mantissa of `k` further digits brings it to its target. -/
theorem shiftToTargetExponent_eq {m k : Nat} {e : Int} (hm : m.log2 = 52 + k)
    (he : -1074 ≤ e + k) :
    shiftToTargetExponent .binary64 m e .exact =
      ((⟨m, false, false⟩ : ExtendedMantissa) >>> k, e + (k : Int)) := by
  obtain ⟨j, hj, hshift⟩ := exists_shiftToTargetExponent m e .exact
  obtain rfl : j = k := by omega
  exact hshift

/-- Rounding a whole number of at least 53 binary digits. -/
theorem isNormal_roundWithAccuracy (s : Sign) {m k : Nat} {e : Int} (hm : m.log2 = 52 + k)
    (hlow : -1074 ≤ e + k) (hhigh : e + k ≤ 970) :
    IsNormal s ((e + k + 1074) * 2 ^ 52 + roundDiv m (2 ^ k))
      (roundWithAccuracy .binary64 s m e .exact) := by
  have hne : m ≠ 0 := by
    rintro rfl
    simp at hm
    omega
  have hround := roundDiv_of_log2 hne hm
  rw [roundWithAccuracy, shiftToTargetExponent_eq hm hlow]
  dsimp only
  rw [roundedMantissa_shiftRight]
  generalize roundDiv m (2 ^ k) = r at hround ⊢
  -- Rounding up may carry into one more digit, which the second shift takes away again.
  by_cases hcarry : r = 2 ^ 53
  · subst hcarry
    have hlog : (2 ^ 53 : Nat).log2 = 52 + 1 := by decide
    rw [shiftToTargetExponent_eq hlog (by omega)]
    refine ⟨2 ^ 52, e + k + 1, by decide, ?_, by decide, by decide, by omega, by omega, ?_⟩
    · rfl
    · omega
  · have hlog : r.log2 = 52 + 0 := log2_of_bounds hround.1 (by omega)
    rw [shiftToTargetExponent_eq hlog (by omega)]
    refine ⟨r, e + k + (0 : Nat), by omega, ?_, hround.1, by omega, by omega, by omega, by omega⟩
    show (if h : r = 0 then UnpackedFloat.zero s else .finite s r (e + k + (0 : Nat)) _) = _
    exact dif_neg (by omega)

/-! ### The written form -/

theorem IsNormal.pack_eq (h : IsNormal s key x) :
    ∃ (ev : BitVec 11) (mv : BitVec 52),
      UnpackedFloat.pack .binary64 x = packComponents .binary64 s ev mv ∧
      0 < ev.toNat ∧ ev.toNat < 2047 ∧ key = ev.toNat * 2 ^ 52 + mv.toNat ∧
      x = .finite s (2 ^ 52 + mv.toNat) (ev.toNat - 1075) (by omega) := by
  obtain ⟨m, e, hpos, rfl, hlow, hhigh, helow, hehigh, rfl⟩ := h
  have hlog : m.log2 = 52 := log2_of_bounds hlow hhigh
  have hbiased : (e + (1023 : Nat) + (52 : Nat)).toNat = (e + 1075).toNat := by omega
  have hev : (BitVec.ofNat 11 (e + 1075).toNat).toNat = (e + 1075).toNat := by
    rw [BitVec.toNat_ofNat]
    omega
  have hmv : (BitVec.ofNat 52 m).toNat = m - 2 ^ 52 := by
    rw [BitVec.toNat_ofNat]
    omega
  refine ⟨BitVec.ofNat 11 (e + 1075).toNat, BitVec.ofNat 52 m, ?_, ?_, ?_, ?_, ?_⟩
  · show (if 2048 ≤ (e + (1023 : Nat) + (52 : Nat)).toNat + 1 then _ else
      if m.log2 + 1 = 53 then packComponents .binary64 s (BitVec.ofNat 11
        (e + (1023 : Nat) + (52 : Nat)).toNat) (BitVec.ofNat 52 m) else _) = _
    rw [hbiased, if_neg (by omega), if_pos (by omega)]
  · omega
  · omega
  · omega
  · rw [UnpackedFloat.finite.injEq]
    refine ⟨rfl, ?_, ?_⟩ <;> omega

theorem toNat_append_bits {v w : Nat} (a : BitVec v) (b : BitVec w) :
    (a ++ b).toNat = a.toNat * 2 ^ w + b.toNat := by
  rw [BitVec.toNat_append, ← Nat.shiftLeft_add_eq_or_of_lt b.isLt, Nat.shiftLeft_eq]

theorem toNat_packComponents (s : Sign) (ev : BitVec 11) (mv : BitVec 52) :
    (packComponents .binary64 s ev mv).toNat =
      s.toBitVec.toNat * 2 ^ 63 + (ev.toNat * 2 ^ 52 + mv.toNat) := by
  show ((s.toBitVec ++ ev) ++ mv).toNat = _
  rw [toNat_append_bits, toNat_append_bits]
  omega

theorem IsNormal.orderKey (h : IsNormal s key x) :
    orderKey (.ofModel (Float.Model.pack x)) = some (s.apply key) := by
  obtain ⟨ev, mv, hpack, hpos, hlt, hkey, -⟩ := h.pack_eq
  have hbits : (Float.ofModel (Float.Model.pack x)).toBits.toNat =
      s.toBitVec.toNat * 2 ^ 63 + (ev.toNat * 2 ^ 52 + mv.toNat) := by
    rw [← toNat_packComponents, ← hpack]
    rfl
  have hmv := mv.isLt
  have hhalf : Nat.pow 2 63 = 2 ^ 63 := rfl
  have hsize : significandSize = 2 ^ 52 := rfl
  rw [Decimal.orderKey, hbits, hhalf, hsize]
  cases s with
  | positive =>
    have hsign : Sign.positive.toBitVec.toNat = 0 := rfl
    rw [hsign, Nat.zero_mul, Nat.zero_add, Nat.mod_eq_of_lt (by omega), if_neg (by omega),
      if_neg (by omega), hkey]
    rfl
  | negative =>
    have hsign : Sign.negative.toBitVec.toNat = 1 := rfl
    rw [hsign, Nat.one_mul, Nat.add_mod_left, Nat.mod_eq_of_lt (by omega), if_neg (by omega),
      if_pos (by omega), hkey]
    rfl

theorem unpackSign_packComponents (s : Sign) (ev : BitVec 11) (mv : BitVec 52) :
    Sign.ofBitVec (unpackSign (packComponents .binary64 s ev mv)) = s := by
  have hsign : (unpackSign (packComponents .binary64 s ev mv)).toNat = s.toBitVec.toNat := by
    have hev := ev.isLt
    have hmv := mv.isLt
    have hs := s.toBitVec.isLt
    show (BitVec.extractLsb 63 63 (packComponents .binary64 s ev mv)).toNat = _
    rw [BitVec.extractLsb_toNat, toNat_packComponents, Nat.shiftRight_eq_div_pow]
    omega
  rw [BitVec.eq_of_toNat_eq hsign]
  cases s <;> rfl

/-- A number with a full significand is read back from its bits. -/
theorem IsNormal.unpack_pack (h : IsNormal s key x) : (Float.Model.pack x).unpack = x := by
  obtain ⟨ev, mv, hpack, hpos, hlt, -, hx⟩ := h.pack_eq
  have hfull : ev ≠ -1#11 := by
    rintro rfl
    exact absurd hlt (by decide)
  have hzero : ev ≠ 0#11 := by
    rintro rfl
    exact absurd hpos (by decide)
  have hmantissa : (1#1 ++ mv).toNat = 2 ^ 52 + mv.toNat := by
    rw [toNat_append_bits]
    rfl
  show UnpackedFloat.unpack .binary64 (UnpackedFloat.pack .binary64 x) = x
  rw [hpack]
  show (if unpackExponent (packComponents .binary64 s ev mv) = -1#11 then _ else
    if unpackExponent (packComponents .binary64 s ev mv) = 0#11 then _ else
      UnpackedFloat.finite _ _ _ _) = x
  rw [if_neg (by rwa [unpackExponent_packComponents]),
    if_neg (by rwa [unpackExponent_packComponents]), hx, UnpackedFloat.finite.injEq]
  refine ⟨unpackSign_packComponents s ev mv, ?_, ?_⟩
  · rw [unpackMantissa_packComponents]
    exact hmantissa
  · rw [unpackExponent_packComponents]
    rfl

theorem IsNormal.neg (h : IsNormal s key x) : IsNormal (-s) key x.neg := by
  obtain ⟨m, e, hpos, rfl, hrest⟩ := h
  exact ⟨m, e, hpos, rfl, hrest⟩

theorem mul_finite {s₁ s₂ : Sign} {m₁ m₂ : Nat} {e₁ e₂ : Int} (h₁ : 0 < m₁) (h₂ : 0 < m₂) :
    UnpackedFloat.mul .binary64 (.finite s₁ m₁ e₁ h₁) (.finite s₂ m₂ e₂ h₂) =
      roundWithAccuracy .binary64 (s₁ * s₂) (m₁ * m₂) (e₁ + e₂) .exact :=
  rfl

/-- Multiplying by one keeps a number with a full significand. -/
theorem IsNormal.mul_one (h : IsNormal .positive key x) (hkey : key < 2000 * 2 ^ 52) :
    IsNormal .positive key
      (UnpackedFloat.mul .binary64 x (.finite .positive (2 ^ 52) (-52) (by decide))) := by
  obtain ⟨m, e, hpos, rfl, hlow, hhigh, helow, hehigh, rfl⟩ := h
  have hlog : (m * 2 ^ 52).log2 = 52 + 52 := log2_of_bounds (by omega) (by omega)
  have hround := isNormal_roundWithAccuracy .positive (e := e + -52) hlog (by omega) (by omega)
  rw [roundDiv_eq_of_exact (by decide)] at hround
  have hsame : (e + -52 + (52 : Nat) + 1074) * 2 ^ 52 + (m : Int) = (e + 1074) * 2 ^ 52 + m := by
    omega
  rw [hsame] at hround
  rw [mul_finite]
  exact hround

/-! ### Whole numbers -/

/-- The place of a whole number in the order of floats: its first 53 binary digits, rounded, behind
their number. -/
def wholeKey (n : Nat) : Nat :=
  if n = 0 then 0 else (n.log2 + 1022) * 2 ^ 52 + roundDiv (n * 2 ^ 52) (2 ^ n.log2)

theorem roundDiv_log2_bounds {n : Nat} (h : n ≠ 0) :
    2 ^ 52 ≤ roundDiv (n * 2 ^ 52) (2 ^ n.log2) ∧
      roundDiv (n * 2 ^ 52) (2 ^ n.log2) ≤ 2 ^ 53 := by
  apply roundDiv_of_log2
  · omega
  · rw [log2_mul_two_pow h, Nat.add_comm]

theorem wholeKey_mono {m n : Nat} (h : m ≤ n) : wholeKey m ≤ wholeKey n := by
  by_cases hm : m = 0
  · rw [wholeKey, if_pos hm]
    exact Nat.zero_le _
  · have hn : n ≠ 0 := by omega
    have hlog : m.log2 ≤ n.log2 := log2_mono hm h
    have hmround := roundDiv_log2_bounds hm
    have hnround := roundDiv_log2_bounds hn
    rw [wholeKey, wholeKey, if_neg hm, if_neg hn]
    by_cases hsame : m.log2 = n.log2
    · rw [hsame]
      exact Nat.add_le_add_left (roundDiv_mono _ (Nat.mul_le_mul_right _ h)) _
    · omega

/-- Numbers that fit into a significand are not rounded. -/
theorem wholeKey_of_lt {n : Nat} (h : n ≠ 0) (hn : n < 2 ^ 53) :
    wholeKey n = (n.log2 + 1022) * 2 ^ 52 + n * 2 ^ (52 - n.log2) := by
  have hlog : n.log2 < 53 := (Nat.log2_lt h).mpr hn
  have hsplit : 2 ^ 52 = 2 ^ (52 - n.log2) * 2 ^ n.log2 := by
    rw [← Nat.pow_add]
    congr 1
    omega
  rw [wholeKey, if_neg h]
  congr 1
  rw [hsplit, ← Nat.mul_assoc, roundDiv_eq_of_exact (Nat.two_pow_pos _)]

theorem wholeKey_lt_succ {n : Nat} (hn : n < 2 ^ 53) : wholeKey n < wholeKey (n + 1) := by
  have hsucc : n + 1 ≠ 0 := Nat.succ_ne_zero n
  have hround := roundDiv_log2_bounds hsucc
  by_cases hzero : n = 0
  · rw [hzero, wholeKey, wholeKey, if_pos rfl, if_neg (by omega)]
    omega
  · have hlog : n.log2 ≤ (n + 1).log2 := log2_mono hzero (Nat.le_succ n)
    have hlt : n.log2 < 53 := (Nat.log2_lt hzero).mpr hn
    by_cases hsame : n.log2 = (n + 1).log2
    · have hsmall : n + 1 < 2 ^ 53 := (Nat.log2_lt hsucc).mp (by omega)
      have hpos : 0 < 2 ^ (52 - (n + 1).log2) := Nat.two_pow_pos _
      rw [wholeKey_of_lt hzero hn, wholeKey_of_lt hsucc hsmall, hsame]
      exact Nat.add_lt_add_left (Nat.mul_lt_mul_of_pos_right (Nat.lt_succ_self n) hpos) _
    · have hbelow : n * 2 ^ (52 - n.log2) < 2 ^ 53 := by
        calc n * 2 ^ (52 - n.log2) < 2 ^ (n.log2 + 1) * 2 ^ (52 - n.log2) :=
              Nat.mul_lt_mul_of_pos_right (Nat.lt_log2_self) (Nat.two_pow_pos _)
          _ = 2 ^ 53 := by
            rw [← Nat.pow_add]
            congr 1
            omega
      rw [wholeKey_of_lt hzero hn, wholeKey, if_neg hsucc]
      omega

theorem wholeKey_lt {m n : Nat} (h : m < n) (hm : m < 2 ^ 53) : wholeKey m < wholeKey n :=
  Nat.lt_of_lt_of_le (wholeKey_lt_succ hm) (wholeKey_mono h)

theorem wholeKey_pos {n : Nat} (h : 0 < n) : 0 < wholeKey n :=
  Nat.lt_of_le_of_lt (Nat.zero_le _) (wholeKey_lt h (by decide))

/-- Two numbers with one place are both too large to be exact. -/
theorem le_of_wholeKey_eq {m n : Nat} (h : wholeKey m = wholeKey n) (hne : m ≠ n) :
    2 ^ 53 ≤ m := by
  by_cases hm : m < 2 ^ 53
  · rcases Nat.lt_or_gt_of_ne hne with hlt | hgt
    · have := wholeKey_lt hlt hm
      omega
    · have := wholeKey_lt hgt (by omega)
      omega
  · omega

/-- A whole number below the limit of exact ones, with as many digits as a significand has. -/
theorem isNormal_ofNat_small {n : Nat} (h : n ≠ 0) (hn : n < 2 ^ 53) :
    IsNormal .positive (wholeKey n) (UnpackedFloat.ofNat .binary64 n) := by
  have hlog : n.log2 < 53 := (Nat.log2_lt h).mpr hn
  have hpos : 0 < (n : Int) := by omega
  have hcompare : compare (n : Int) 0 = .gt := by
    rw [Int.compare_eq_gt]
    exact hpos
  have hamount : (0 - Format.binary64.targetExponent (totalExponent n 0)).toNat = 52 - n.log2 := by
    rw [targetExponent_eq, totalExponent]
    omega
  have hdigits : (n * 2 ^ (52 - n.log2)).log2 = 52 + 0 := by
    rw [log2_mul_two_pow h]
    omega
  have hround := isNormal_roundWithAccuracy .positive (e := 0 - ((52 - n.log2 : Nat) : Int)) hdigits
    (by omega) (by omega)
  have hkey : (0 - ((52 - n.log2 : Nat) : Int) + (0 : Nat) + 1074) * 2 ^ 52 +
      (roundDiv (n * 2 ^ (52 - n.log2)) (2 ^ 0) : Nat) = (wholeKey n : Int) := by
    have hone : roundDiv (n * 2 ^ (52 - n.log2) * 1) 1 = n * 2 ^ (52 - n.log2) :=
      roundDiv_eq_of_exact (by decide)
    rw [Nat.mul_one] at hone
    rw [Nat.pow_zero, hone, wholeKey_of_lt h hn]
    omega
  rw [hkey] at hround
  rw [UnpackedFloat.ofNat, UnpackedFloat.ofInt, UnpackedFloat.normalize]
  simp only [hcompare, Int.toNat_natCast]
  rw [UnpackedFloat.round]
  simp only [decreaseExponent, hamount, Nat.shiftLeft_eq]
  exact hround

/-- A whole number is given 53 further digits, which changes nothing, and is rounded. -/
theorem ofScientific_zero {n : Nat} (h : n ≠ 0) :
    UnpackedFloat.ofScientific .binary64 n 0 =
      roundWithAccuracy .binary64 .positive (n * 2 ^ 53 * 1) (-53 + 0) .exact := by
  have hpositive : ¬ (0 : Int) > 2 ^ Format.binary64.exponentBits := by decide
  have hnegative : ¬ (0 : Int) < -(2 ^ Format.binary64.exponentBits + (n.log2 : Int)) := by
    show ¬ (0 : Int) < -(2 ^ 11 + (n.log2 : Int))
    omega
  have hshift : n <<< Format.binary64.mantissaBits = n * 2 ^ 53 := Nat.shiftLeft_eq n 53
  rw [UnpackedFloat.ofScientific, dif_neg h, if_neg hpositive, if_neg hnegative,
    if_pos (Int.le_refl 0), mul_finite, hshift]
  rfl

/-- A larger whole number, which is rounded. -/
theorem isNormal_ofScientific {n : Nat} (hn : 2 ^ 53 ≤ n) (hmost : n < 2 ^ 64) :
    IsNormal .positive (wholeKey n) (UnpackedFloat.ofScientific .binary64 n 0) := by
  have h : n ≠ 0 := by omega
  have hlow : 53 ≤ n.log2 := (Nat.le_log2 h).mpr hn
  have hhigh : n.log2 < 64 := (Nat.log2_lt h).mpr hmost
  have hdigits : (n * 2 ^ 53 * 1).log2 = 52 + (n.log2 + 1) := by
    rw [Nat.mul_one, log2_mul_two_pow h]
    omega
  have hround := isNormal_roundWithAccuracy .positive (e := -53 + 0) hdigits (by omega) (by omega)
  have hkey : (-53 + 0 + ((n.log2 + 1 : Nat) : Int) + 1074) * 2 ^ 52 +
      (roundDiv (n * 2 ^ 53 * 1) (2 ^ (n.log2 + 1)) : Nat) = (wholeKey n : Int) := by
    have hdouble : roundDiv (n * 2 ^ 53 * 1) (2 ^ (n.log2 + 1)) =
        roundDiv (n * 2 ^ 52) (2 ^ n.log2) := by
      rw [Nat.mul_one, Nat.pow_succ, Nat.pow_succ 2 n.log2, ← Nat.mul_assoc]
      exact roundDiv_mul_right (by decide)
    rw [hdouble, wholeKey, if_neg h]
    omega
  rw [hkey] at hround
  rw [ofScientific_zero h]
  exact hround

/-- The float one. -/
theorem unpack_one : (Float.exactlyRepresentablePowersOfTen[0]).toModel.unpack =
    .finite .positive (2 ^ 52) (-52) (by decide) := by
  rfl

/-- A whole number that is not zero, as a float. -/
theorem ofNat_eq {n : Nat} (h : n ≠ 0) (hmost : n < 2 ^ 64) :
    ∃ x, IsNormal .positive (wholeKey n) x ∧ Float.ofNat n = .ofModel (Float.Model.pack x) := by
  by_cases hsmall : n < 2 ^ 53
  -- An exact number goes through a machine word and is multiplied by one.
  · have hx := isNormal_ofNat_small h hsmall
    have hword : n.toUInt64.toNat = n := by
      show n % 2 ^ 64 = n
      omega
    have hkey : (wholeKey n : Int) < 2000 * 2 ^ 52 := by
      have hlog : n.log2 < 53 := (Nat.log2_lt h).mpr hsmall
      have hround := (roundDiv_log2_bounds h).2
      rw [wholeKey, if_neg h]
      omega
    refine ⟨_, hx.mul_one hkey, ?_⟩
    show Float.ofScientific n false 0 = _
    rw [Float.ofScientific, dif_pos ⟨hsmall, by omega⟩, if_neg Bool.false_ne_true]
    show Float.ofModel (Float.Model.pack (UnpackedFloat.mul .binary64
      (Float.Model.pack (UnpackedFloat.ofNat .binary64 n.toUInt64.toNat)).unpack
      (Float.exactlyRepresentablePowersOfTen[0]).toModel.unpack)) = _
    rw [hword, hx.unpack_pack, unpack_one]
  · refine ⟨_, isNormal_ofScientific (by omega) hmost, ?_⟩
    show Float.ofScientific n false 0 = _
    rw [Float.ofScientific, dif_neg (fun hn => hsmall hn.1), if_neg Bool.false_ne_true]
    rfl

/-- The place of an integer in the order of floats. -/
def integerKey (n : Int) : Int := if n < 0 then -(wholeKey n.natAbs : Int) else wholeKey n.natAbs

theorem orderKey_ofNat {n : Nat} (h : n < 2 ^ 64) :
    orderKey (Float.ofNat n) = some (wholeKey n : Int) := by
  by_cases hzero : n = 0
  · subst hzero
    rfl
  · obtain ⟨x, hx, hn⟩ := ofNat_eq hzero h
    rw [hn, hx.orderKey]
    rfl

theorem orderKey_ofInt {n : Int} (hlow : -(2 ^ 63) ≤ n) (hhigh : n < 2 ^ 63) :
    orderKey (Float.ofInt n) = some (integerKey n) := by
  cases n with
  | ofNat n =>
    show orderKey (Float.ofNat n) = some (if (n : Int) < 0 then _ else (wholeKey n : Int))
    have hn : n < 2 ^ 64 := by
      have : (Int.ofNat n) = (n : Int) := rfl
      omega
    rw [if_neg (by omega), orderKey_ofNat hn]
  | negSucc n =>
    have hn : n + 1 < 2 ^ 64 := by omega
    obtain ⟨x, hx, hfloat⟩ := ofNat_eq (Nat.succ_ne_zero n) hn
    show orderKey (Float.ofModel (Float.Model.pack (Float.ofNat (n + 1)).toModel.unpack.neg)) = _
    rw [hfloat, hx.unpack_pack, hx.neg.orderKey, integerKey, if_pos (Int.negSucc_lt_zero n)]
    rfl

theorem integerKey_mono {m n : Int} (h : m ≤ n) : integerKey m ≤ integerKey n := by
  unfold integerKey
  split <;> split
  · have := wholeKey_mono (m := n.natAbs) (n := m.natAbs) (by omega)
    omega
  · omega
  · omega
  · have := wholeKey_mono (m := m.natAbs) (n := n.natAbs) (by omega)
    omega

end Stencil.Decimal
