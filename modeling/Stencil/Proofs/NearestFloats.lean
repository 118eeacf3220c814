import Stencil.Proofs.WholeFloats

/-!
Whole numbers as floats. A float keeps the first 53 binary digits of a whole number, so each whole
number stands for the nearest one with so few digits. What is rounded is known by its exact quantity
alone, in whatever units it is given.
-/
namespace Stencil.Decimal

open Float.Model Float.Model.UnpackedFloat

/-- The nearest whole number with at most 53 binary digits; half-way between two of them, the one
with an even significand. -/
def nearestWhole (n : Nat) : Nat := roundDiv n (2 ^ (n.log2 - 52)) * 2 ^ (n.log2 - 52)

/-- The nearest integer whose magnitude has at most 53 binary digits. -/
def nearestInteger (n : Int) : Int :=
  if n < 0 then -(nearestWhole n.natAbs : Int) else nearestWhole n.natAbs

/-- What an integer is as a float: its magnitude with a full significand, or a zero of either
sign. -/
inductive Rounds : Int → UnpackedFloat → Prop where
  | zero (s : Sign) : Rounds 0 (.zero s)
  | normal {s : Sign} {n : Nat} {u : UnpackedFloat} (_ : n ≠ 0) (_ : IsNormal s (wholeKey n) u) :
      Rounds (s.apply n) u

/-- A float that an integer is rounded to. -/
def IsNearest (x : Float) (n : Int) : Prop :=
  ∃ u, Rounds n u ∧ x = .ofModel (Float.Model.pack u)

variable {a b m n j : Nat} {s : Sign} {u v : UnpackedFloat} {x y : Float} {k l : Int}

/-! ### Significands -/

theorem nearestWhole_zero : nearestWhole 0 = 0 := rfl

theorem nearestWhole_mul (n : Nat) :
    nearestWhole n * 2 ^ 52 = roundDiv (n * 2 ^ 52) (2 ^ n.log2) * 2 ^ n.log2 := by
  by_cases hlog : 52 ≤ n.log2
  · have hsplit : 2 ^ n.log2 = 2 ^ (n.log2 - 52) * 2 ^ 52 := by
      rw [← Nat.pow_add]
      congr 1
      omega
    have hscale : roundDiv (n * 2 ^ 52) (2 ^ (n.log2 - 52) * 2 ^ 52) =
        roundDiv n (2 ^ (n.log2 - 52)) := roundDiv_mul_right (Nat.two_pow_pos 52)
    rw [hsplit, hscale, nearestWhole, Nat.mul_assoc]
  · have hsplit : 2 ^ 52 = 2 ^ (52 - n.log2) * 2 ^ n.log2 := by
      rw [← Nat.pow_add]
      congr 1
      omega
    have hexact : roundDiv (n * 1) 1 = n := roundDiv_eq_of_exact (by decide)
    rw [Nat.mul_one] at hexact
    rw [nearestWhole, show n.log2 - 52 = 0 by omega, Nat.pow_zero, hexact, Nat.mul_one, hsplit,
      ← Nat.mul_assoc, roundDiv_eq_of_exact (Nat.two_pow_pos _)]

/-- A number that is rounded, as a full significand and the place of its last digit. -/
theorem exists_significand (hn : n ≠ 0) :
    ∃ m j, 2 ^ 52 ≤ m ∧ m < 2 ^ 53 ∧ m * 2 ^ j = nearestWhole n * 2 ^ 52 ∧
      wholeKey n = (j + 1022) * 2 ^ 52 + m := by
  have hround := roundDiv_log2_bounds hn
  have hmul := nearestWhole_mul n
  rw [wholeKey, if_neg hn]
  generalize roundDiv (n * 2 ^ 52) (2 ^ n.log2) = r at hround hmul ⊢
  by_cases hcarry : r = 2 ^ 53
  · refine ⟨2 ^ 52, n.log2 + 1, by decide, by decide, ?_, ?_⟩
    · rw [hmul, hcarry, Nat.pow_succ]
      omega
    · clear hmul
      omega
  · exact ⟨r, n.log2, hround.1, by omega, hmul.symm, rfl⟩

theorem log2_of_significand (hlow : 2 ^ 52 ≤ m) (hhigh : m < 2 ^ 53)
    (h : m * 2 ^ j = a * 2 ^ 52) : a ≠ 0 ∧ a.log2 = j := by
  have hpos : 0 < m * 2 ^ j := Nat.mul_pos (by omega) (Nat.two_pow_pos j)
  have ha : a ≠ 0 := by
    rintro rfl
    omega
  have hlog : m.log2 = 52 := log2_of_bounds hlow hhigh
  have hshift := log2_mul_two_pow (n := m) (by omega) j
  rw [h, log2_mul_two_pow ha] at hshift
  exact ⟨ha, by omega⟩

theorem wholeKey_of_significand (hlow : 2 ^ 52 ≤ m) (hhigh : m < 2 ^ 53)
    (h : m * 2 ^ j = a * 2 ^ 52) : wholeKey a = (j + 1022) * 2 ^ 52 + m := by
  obtain ⟨ha, hlog⟩ := log2_of_significand hlow hhigh h
  rw [wholeKey, if_neg ha, hlog, ← h, roundDiv_eq_of_exact (Nat.two_pow_pos j)]

/-- Numbers with one place among the floats are rounded alike. -/
theorem nearestWhole_eq_iff : nearestWhole a = nearestWhole b ↔ wholeKey a = wholeKey b := by
  by_cases ha : a = 0
  · by_cases hb : b = 0
    · rw [ha, hb]
      exact ⟨fun _ => rfl, fun _ => rfl⟩
    · obtain ⟨m, j, hlow, -, hmul, -⟩ := exists_significand hb
      have hpos : 0 < m * 2 ^ j := Nat.mul_pos (by omega) (Nat.two_pow_pos j)
      have hkey : 0 < wholeKey b := wholeKey_pos (by omega)
      have hzero : wholeKey 0 = 0 := rfl
      rw [ha, nearestWhole_zero, hzero]
      omega
  · obtain ⟨m, j, hlow, hhigh, hmul, hkey⟩ := exists_significand ha
    have hpos : 0 < m * 2 ^ j := Nat.mul_pos (by omega) (Nat.two_pow_pos j)
    by_cases hb : b = 0
    · have hkeypos : 0 < wholeKey a := wholeKey_pos (by omega)
      have hzero : wholeKey 0 = 0 := rfl
      rw [hb, nearestWhole_zero, hzero]
      omega
    · obtain ⟨m', j', hlow', hhigh', hmul', hkey'⟩ := exists_significand hb
      constructor
      · intro h
        rw [← wholeKey_of_significand hlow hhigh hmul, h,
          wholeKey_of_significand hlow' hhigh' hmul'] at hkey
        omega
      · intro h
        obtain rfl : m = m' := by omega
        obtain rfl : j = j' := by omega
        exact Nat.eq_of_mul_eq_mul_right (Nat.two_pow_pos 52) (hmul.symm.trans hmul')

theorem wholeKey_nearestWhole (n : Nat) : wholeKey (nearestWhole n) = wholeKey n := by
  by_cases hn : n = 0
  · rw [hn, nearestWhole_zero]
  · obtain ⟨m, j, hlow, hhigh, hmul, hkey⟩ := exists_significand hn
    rw [hkey, wholeKey_of_significand hlow hhigh hmul]

theorem nearestWhole_nearestWhole (n : Nat) : nearestWhole (nearestWhole n) = nearestWhole n :=
  nearestWhole_eq_iff.mpr (wholeKey_nearestWhole n)

/-- A number with a full significand is not rounded. -/
theorem nearestWhole_of_significand (hlow : 2 ^ 52 ≤ m) (hhigh : m < 2 ^ 53)
    (h : m * 2 ^ j = a * 2 ^ 52) : nearestWhole a = a := by
  obtain ⟨m', j', hlow', hhigh', hmul, hkey⟩ :=
    exists_significand (log2_of_significand hlow hhigh h).1
  rw [wholeKey_of_significand hlow hhigh h] at hkey
  obtain rfl : m = m' := by omega
  obtain rfl : j = j' := by omega
  exact Nat.eq_of_mul_eq_mul_right (Nat.two_pow_pos 52) (hmul.symm.trans h)

theorem nearestWhole_mul_two_pow (n t : Nat) :
    nearestWhole (n * 2 ^ t) = nearestWhole n * 2 ^ t := by
  by_cases hn : n = 0
  · rw [hn, Nat.zero_mul, nearestWhole_zero, Nat.zero_mul]
  · apply Nat.eq_of_mul_eq_mul_right (Nat.two_pow_pos 52)
    have hscale : n * 2 ^ t * 2 ^ 52 = n * 2 ^ 52 * 2 ^ t := Nat.mul_right_comm n _ _
    rw [nearestWhole_mul, log2_mul_two_pow hn, Nat.pow_add, hscale,
      roundDiv_mul_right (Nat.two_pow_pos t), ← Nat.mul_assoc, ← nearestWhole_mul,
      Nat.mul_right_comm]

/-- A number with at most 53 binary digits in front of its last zeros stays as it is, and no other
number does. -/
theorem nearestWhole_eq_self_iff : nearestWhole n = n ↔ ∃ m k, m < 2 ^ 53 ∧ n = m * 2 ^ k := by
  by_cases hn : n = 0
  · subst hn
    exact ⟨fun _ => ⟨0, 0, by decide, rfl⟩, fun _ => rfl⟩
  constructor
  · intro h
    obtain ⟨m, j, hlow, hhigh, hmul, -⟩ := exists_significand hn
    rw [h] at hmul
    by_cases hj : 52 ≤ j
    · refine ⟨m, j - 52, hhigh, Nat.eq_of_mul_eq_mul_right (Nat.two_pow_pos 52) ?_⟩
      rw [← hmul, Nat.mul_assoc, ← Nat.pow_add, Nat.sub_add_cancel hj]
    · have hle : n * 2 ^ 52 ≤ m * 2 ^ 52 := by
        rw [← hmul]
        exact Nat.mul_le_mul_left m (Nat.pow_le_pow_right (by decide) (by omega))
      exact ⟨n, 0, by omega, by omega⟩
  · rintro ⟨m, k, hm, rfl⟩
    have hm0 : m ≠ 0 := by
      rintro rfl
      exact hn (Nat.zero_mul _)
    have hlog : m.log2 < 53 := (Nat.log2_lt hm0).mpr hm
    -- The significand is filled up with zeros.
    have hfull : (m * 2 ^ (52 - m.log2)).log2 = 52 := by
      rw [log2_mul_two_pow hm0]
      omega
    have hne : m * 2 ^ (52 - m.log2) ≠ 0 := by
      intro h
      rw [h] at hfull
      contradiction
    obtain ⟨hlow, hhigh⟩ := (Nat.log2_eq_iff hne).mp hfull
    have hmul : m * 2 ^ (52 - m.log2) * 2 ^ (k + m.log2) = m * 2 ^ k * 2 ^ 52 := by
      rw [Nat.mul_assoc, ← Nat.pow_add, Nat.mul_assoc, ← Nat.pow_add]
      congr 2
      omega
    exact nearestWhole_of_significand hlow hhigh hmul

theorem nearestWhole_of_lt (hn : n < 2 ^ 53) : nearestWhole n = n :=
  nearestWhole_eq_self_iff.mpr ⟨n, 0, hn, (Nat.mul_one n).symm⟩

theorem nearestWhole_eq_zero_iff : nearestWhole n = 0 ↔ n = 0 := by
  constructor
  · intro h
    by_contra hn
    have hkey : wholeKey n = wholeKey 0 := nearestWhole_eq_iff.mp h
    have hpos : 0 < wholeKey n := wholeKey_pos (by omega)
    have hzero : wholeKey 0 = 0 := rfl
    omega
  · rintro rfl
    rfl

theorem nearestWhole_mono (h : a ≤ b) : nearestWhole a ≤ nearestWhole b := by
  by_contra hlt
  have hkeys : wholeKey (nearestWhole b) ≤ wholeKey (nearestWhole a) := wholeKey_mono (by omega)
  rw [wholeKey_nearestWhole, wholeKey_nearestWhole] at hkeys
  have hsame : wholeKey a = wholeKey b := Nat.le_antisymm (wholeKey_mono h) hkeys
  rw [nearestWhole_eq_iff.mpr hsame] at hlt
  exact hlt (Nat.le_refl _)

theorem nearestWhole_two_pow (t : Nat) : nearestWhole (2 ^ t) = 2 ^ t :=
  nearestWhole_eq_self_iff.mpr ⟨1, t, by decide, (Nat.one_mul _).symm⟩

theorem nearestWhole_le_two_pow {t : Nat} (h : n ≤ 2 ^ t) : nearestWhole n ≤ 2 ^ t := by
  have hle := nearestWhole_mono h
  rwa [nearestWhole_two_pow] at hle

/-! ### Integers -/

theorem apply_natCast_ne_zero (s : Sign) (hn : n ≠ 0) : s.apply (n : Int) ≠ 0 := by
  cases s
  · show -(n : Int) ≠ 0
    omega
  · show (n : Int) ≠ 0
    omega

theorem apply_mul (s : Sign) (k l : Int) : s.apply k * l = s.apply (k * l) := by
  cases s
  · exact Int.neg_mul k l
  · rfl

theorem neg_apply (s : Sign) (k : Int) : (-s).apply k = -s.apply k := by
  cases s
  · exact (Int.neg_neg k).symm
  · rfl

theorem natAbs_apply (s : Sign) (n : Nat) : (s.apply (n : Int)).natAbs = n := by
  cases s
  · exact Int.natAbs_neg n
  · rfl

theorem apply_inj {s' : Sign} (hm : m ≠ 0) (h : s.apply (m : Int) = s'.apply n) :
    s = s' ∧ m = n := by
  have habs : m = n := by rw [← natAbs_apply s m, h, natAbs_apply]
  subst habs
  refine ⟨?_, rfl⟩
  cases s <;> cases s'
  · rfl
  · have hneg : -(m : Int) = m := h
    omega
  · have hneg : (m : Int) = -(m : Int) := h
    omega
  · rfl

/-- Each integer is a magnitude with a sign. -/
theorem exists_sign (k : Int) : ∃ s : Sign, k = s.apply k.natAbs := by
  rcases Int.natAbs_eq k with h | h
  · exact ⟨.positive, h⟩
  · exact ⟨.negative, h⟩

theorem nearestInteger_zero : nearestInteger 0 = 0 := rfl

theorem nearestInteger_apply (s : Sign) (n : Nat) :
    nearestInteger (s.apply n) = s.apply (nearestWhole n) := by
  by_cases hn : n = 0
  · subst hn
    cases s <;> rfl
  cases s
  · have hneg : -(n : Int) < 0 := by omega
    show (if -(n : Int) < 0 then -(nearestWhole (-(n : Int)).natAbs : Int) else _) =
      -(nearestWhole n : Int)
    rw [if_pos hneg, Int.natAbs_neg, Int.natAbs_natCast]
  · show (if (n : Int) < 0 then _ else (nearestWhole (n : Int).natAbs : Int)) = nearestWhole n
    rw [if_neg (by omega), Int.natAbs_natCast]

theorem natAbs_nearestInteger (k : Int) : (nearestInteger k).natAbs = nearestWhole k.natAbs := by
  unfold nearestInteger
  split <;> omega

theorem nearestInteger_nearestInteger (k : Int) :
    nearestInteger (nearestInteger k) = nearestInteger k := by
  obtain ⟨s, hs⟩ := exists_sign k
  rw [hs, nearestInteger_apply, nearestInteger_apply, nearestWhole_nearestWhole]

theorem nearestInteger_neg (k : Int) : nearestInteger (-k) = -nearestInteger k := by
  obtain ⟨s, hs⟩ := exists_sign k
  rw [hs, ← neg_apply, nearestInteger_apply, nearestInteger_apply, neg_apply]

theorem nearestInteger_eq_zero_iff : nearestInteger k = 0 ↔ k = 0 := by
  rw [← Int.natAbs_eq_zero, natAbs_nearestInteger, nearestWhole_eq_zero_iff, Int.natAbs_eq_zero]

theorem nearestInteger_eq_self_iff : nearestInteger k = k ↔ nearestWhole k.natAbs = k.natAbs := by
  unfold nearestInteger
  split <;> omega

theorem nearestInteger_of_natAbs_lt (hk : k.natAbs < 2 ^ 53) : nearestInteger k = k :=
  nearestInteger_eq_self_iff.mpr (nearestWhole_of_lt hk)

/-- Only integers with more than 53 binary digits share what they are rounded to. -/
theorem eq_of_nearestInteger_eq (h : nearestInteger k = nearestInteger l)
    (hl : l.natAbs < 2 ^ 53) : k = l := by
  have hwhole : nearestWhole l.natAbs = nearestWhole k.natAbs := by
    rw [← natAbs_nearestInteger, ← natAbs_nearestInteger, h]
  have habs : l.natAbs = k.natAbs := by
    by_contra hne
    have hle := le_of_wholeKey_eq (nearestWhole_eq_iff.mp hwhole) hne
    omega
  rwa [nearestInteger_of_natAbs_lt hl, nearestInteger_of_natAbs_lt (by omega)] at h

theorem nearestInteger_mono (h : k ≤ l) : nearestInteger k ≤ nearestInteger l := by
  unfold nearestInteger
  split <;> split
  · have := nearestWhole_mono (a := l.natAbs) (b := k.natAbs) (by omega)
    omega
  · omega
  · omega
  · have := nearestWhole_mono (a := k.natAbs) (b := l.natAbs) (by omega)
    omega

/-! ### The floats of integers -/

theorem IsNormal.eq {key : Int} (hu : IsNormal s key u) (hv : IsNormal s key v) : u = v := by
  obtain ⟨m, e, hpos, rfl, hlow, hhigh, -, -, hkey⟩ := hu
  obtain ⟨m', e', hpos', rfl, hlow', hhigh', -, -, hkey'⟩ := hv
  rw [UnpackedFloat.finite.injEq]
  refine ⟨rfl, ?_, ?_⟩ <;> omega

/-- The parts of a float that is not zero. -/
theorem IsNormal.exists_parts (hn : n ≠ 0) (h : IsNormal s (wholeKey n) u) :
    ∃ (m j : Nat) (hpos : 0 < m), u = .finite s m ((j : Int) - 52) hpos ∧ 2 ^ 52 ≤ m ∧
      m < 2 ^ 53 ∧ m * 2 ^ j = nearestWhole n * 2 ^ 52 := by
  obtain ⟨m, j, hlow, hhigh, hmul, hkey⟩ := exists_significand hn
  obtain ⟨m', e, hpos, rfl, hlow', hhigh', -, -, hkey'⟩ := h
  obtain rfl : m = m' := by omega
  refine ⟨m, j, hpos, ?_, hlow, hhigh, hmul⟩
  rw [UnpackedFloat.finite.injEq]
  exact ⟨rfl, rfl, by omega⟩

theorem Rounds.unpack_pack (h : Rounds k u) : (Float.Model.pack u).unpack = u := by
  cases h with
  | zero s => cases s <;> rfl
  | normal _ h => exact h.unpack_pack

theorem Rounds.nearestInteger (h : Rounds k u) : Rounds (nearestInteger k) u := by
  cases h with
  | zero s => exact .zero s
  | @normal s n _ hn h =>
    rw [nearestInteger_apply]
    refine .normal (fun hzero => hn (nearestWhole_eq_zero_iff.mp hzero)) ?_
    rwa [wholeKey_nearestWhole]

theorem Rounds.neg (h : Rounds k u) : Rounds (-k) u.neg := by
  cases h with
  | zero s => exact .zero (-s)
  | @normal s n _ hn h =>
    rw [← neg_apply]
    exact .normal hn h.neg

theorem isNearest_zero (s : Sign) : IsNearest (.ofModel (Float.Model.pack (.zero s))) 0 :=
  ⟨_, .zero s, rfl⟩

theorem IsNearest.nearestInteger (h : IsNearest x k) : IsNearest x (nearestInteger k) := by
  obtain ⟨u, hu, hx⟩ := h
  exact ⟨u, hu.nearestInteger, hx⟩

theorem Rounds.exists_zero (h : Rounds 0 u) : ∃ s, u = .zero s := by
  generalize hk : (0 : Int) = k at h
  cases h with
  | zero s => exact ⟨s, rfl⟩
  | @normal s _ _ hn _ => exact absurd hk.symm (apply_natCast_ne_zero s hn)

theorem Rounds.isNormal (hn : n ≠ 0) (h : Rounds (s.apply n) u) : IsNormal s (wholeKey n) u := by
  generalize hk : s.apply (n : Int) = k at h
  cases h with
  | zero => exact absurd hk (apply_natCast_ne_zero s hn)
  | normal hn' h =>
    obtain ⟨rfl, rfl⟩ := apply_inj hn hk
    exact h

theorem Rounds.eq_of_ne_zero (hk : k ≠ 0) (hu : Rounds k u) (hv : Rounds k v) : u = v := by
  obtain ⟨s, hs⟩ := exists_sign k
  have hn : k.natAbs ≠ 0 := by omega
  rw [hs] at hu hv
  exact (hu.isNormal hn).eq (hv.isNormal hn)

/-- Only zero is rounded to more than one float. -/
theorem IsNearest.eq_of_ne_zero (hx : IsNearest x k) (hy : IsNearest y l)
    (h : Decimal.nearestInteger k = Decimal.nearestInteger l) (hk : k ≠ 0) : x = y := by
  obtain ⟨u, hu, rfl⟩ := hx.nearestInteger
  obtain ⟨v, hv, rfl⟩ := hy.nearestInteger
  rw [← h] at hv
  rw [hu.eq_of_ne_zero (fun hzero => hk (nearestInteger_eq_zero_iff.mp hzero)) hv]

theorem isNearest_ofNat (hn : n < 2 ^ 64) : IsNearest (Float.ofNat n) n := by
  by_cases hzero : n = 0
  · subst hzero
    exact isNearest_zero .positive
  · obtain ⟨u, hu, hx⟩ := ofNat_eq hzero hn
    exact ⟨u, .normal (s := .positive) hzero hu, hx⟩

theorem IsNearest.neg (h : IsNearest x k) : IsNearest (-x) (-k) := by
  obtain ⟨u, hu, rfl⟩ := h
  refine ⟨u.neg, hu.neg, ?_⟩
  show Float.ofModel (Float.Model.pack (Float.Model.pack u).unpack.neg) = _
  rw [hu.unpack_pack]

theorem isNearest_ofInt (hk : k.natAbs < 2 ^ 64) : IsNearest (Float.ofInt k) k := by
  cases k with
  | ofNat n => exact isNearest_ofNat hk
  | negSucc n => exact (isNearest_ofNat (n := n + 1) hk).neg

/-! ### Quantities -/

/-- An exact quantity in the form that the float of an integer has. -/
inductive Dyadic.Spells : Dyadic → Int → Prop where
  | zero (negative : Bool) : Spells ⟨negative, 0, -1074⟩ 0
  | normal {s : Sign} {m j a : Nat} :
      2 ^ 52 ≤ m → m < 2 ^ 53 → m * 2 ^ j = a * 2 ^ 52 →
        Spells ⟨s == .negative, m, (j : Int) - 52⟩ (s.apply a)

section Quantity

variable {d : Dyadic} (h : d.mantissa * 2 ^ j = a * 2 ^ 52) (he : d.exponent = (j : Int) - 52)
include h he

/-- Only zeros are behind the binary point of a whole quantity. -/
theorem mantissa_eq_mul (hneg : d.exponent < 0) :
    d.mantissa = a * 2 ^ (-d.exponent).toNat := by
  apply Nat.eq_of_mul_eq_mul_right (Nat.two_pow_pos j)
  rw [h, Nat.mul_assoc, ← Nat.pow_add]
  congr 2
  omega

theorem mantissa_mul_eq (hnonneg : 0 ≤ d.exponent) : d.mantissa * 2 ^ d.exponent.toNat = a := by
  apply Nat.eq_of_mul_eq_mul_right (Nat.two_pow_pos 52)
  rw [← h, Nat.mul_assoc, ← Nat.pow_add]
  congr 2
  omega

end Quantity

theorem IsNormal.ofFloat_pack {key e : Int} {hpos : 0 < m}
    (h : IsNormal s key (.finite s m e hpos)) :
    Binary64.ofFloat (.ofModel (Float.Model.pack (.finite s m e hpos))) =
      .finite ⟨s == .negative, m, e⟩ := by
  obtain ⟨ev, mv, hpack, hev, hev', -, hx⟩ := h.pack_eq
  have hbits : (Float.ofModel (Float.Model.pack (.finite s m e hpos))).toBits.toNat =
      s.toBitVec.toNat * 2 ^ 63 + (ev.toNat * 2 ^ 52 + mv.toNat) := by
    rw [← toNat_packComponents, ← hpack]
    rfl
  rw [UnpackedFloat.finite.injEq] at hx
  obtain ⟨-, rfl, rfl⟩ := hx
  have hmv := mv.isLt
  have hsign := s.toBitVec.isLt
  have hsize : significandSize = 2 ^ 52 := rfl
  have hexponents : Nat.pow 2 11 = 2 ^ 11 := rfl
  have hhalf : Nat.pow 2 63 = 2 ^ 63 := rfl
  have hbiased : (s.toBitVec.toNat * 2 ^ 63 + (ev.toNat * 2 ^ 52 + mv.toNat)) / 2 ^ 52 % 2 ^ 11 =
      ev.toNat := by
    omega
  have hfraction : (s.toBitVec.toNat * 2 ^ 63 + (ev.toNat * 2 ^ 52 + mv.toNat)) % 2 ^ 52 =
      mv.toNat := by
    omega
  have hnegative : decide (s.toBitVec.toNat * 2 ^ 63 + (ev.toNat * 2 ^ 52 + mv.toNat) ≥ 2 ^ 63) =
      (s == .negative) := by
    cases s with
    | positive =>
      have hbit : Sign.positive.toBitVec.toNat = 0 := rfl
      exact decide_eq_false (by omega)
    | negative =>
      have hbit : Sign.negative.toBitVec.toNat = 1 := rfl
      exact decide_eq_true (by omega)
  rw [Binary64.ofFloat, hbits, Binary64.ofBits, hsize, hexponents, hhalf]
  simp only [hbiased, hfraction, hnegative]
  rw [if_neg (by omega), if_neg (by omega)]

/-- The quantity of a float to which an integer is rounded. -/
theorem IsNearest.exists_spells (h : IsNearest x k) :
    ∃ d, Binary64.ofFloat x = .finite d ∧ d.Spells (Decimal.nearestInteger k) := by
  obtain ⟨u, hu, rfl⟩ := h
  cases hu with
  | zero s => cases s <;> exact ⟨_, rfl, .zero _⟩
  | @normal s n _ hn h =>
    obtain ⟨m, j, hpos, rfl, hlow, hhigh, hmul⟩ := h.exists_parts hn
    rw [nearestInteger_apply]
    exact ⟨_, h.ofFloat_pack, .normal hlow hhigh hmul⟩

/-! ### Rounding a quantity -/

/-- What is rounded is known by its quantity, in whatever units it is given with all its digits. -/
theorem isNormal_roundWithAccuracy_of_mul_eq (s : Sign) {p q : Nat} {e : Int} (ha : a ≠ 0)
    (halog : a.log2 < 1023) (hm : 52 ≤ m.log2) (h : m * 2 ^ p = a * 2 ^ q)
    (he : e = (p : Int) - q) :
    IsNormal s (wholeKey a) (roundWithAccuracy .binary64 s m e .exact) := by
  have hm0 : m ≠ 0 := by
    rintro rfl
    contradiction
  have hlog := log2_mul_two_pow hm0 p
  rw [h, log2_mul_two_pow ha] at hlog
  obtain ⟨k, hk⟩ : ∃ k, m.log2 = 52 + k := ⟨m.log2 - 52, by omega⟩
  have hround := isNormal_roundWithAccuracy s (e := e) hk (by omega) (by omega)
  have hkey : roundDiv m (2 ^ k) = roundDiv (a * 2 ^ 52) (2 ^ a.log2) := by
    calc
      roundDiv m (2 ^ k) = roundDiv (m * 2 ^ (p + 52)) (2 ^ k * 2 ^ (p + 52)) :=
        (roundDiv_mul_right (Nat.two_pow_pos _)).symm
      _ = roundDiv (a * 2 ^ 52 * 2 ^ q) (2 ^ a.log2 * 2 ^ q) := by
        rw [← Nat.pow_add, ← Nat.pow_add, Nat.pow_add 2 p, ← Nat.mul_assoc, h,
          Nat.mul_right_comm]
        congr 2
        omega
      _ = roundDiv (a * 2 ^ 52) (2 ^ a.log2) := roundDiv_mul_right (Nat.two_pow_pos _)
  rw [hkey] at hround
  rw [wholeKey, if_neg ha]
  have hexponent : (e + k + 1074) * 2 ^ 52 + (roundDiv (a * 2 ^ 52) (2 ^ a.log2) : Nat) =
      (((a.log2 + 1022) * 2 ^ 52 + roundDiv (a * 2 ^ 52) (2 ^ a.log2) : Nat) : Int) := by
    omega
  rwa [hexponent] at hround

/-- A quantity that is given with few digits gets zeros behind them first. -/
theorem isNormal_round (s : Sign) {p q : Nat} {e : Int} (ha : a ≠ 0) (halog : a.log2 < 1023)
    (h : m * 2 ^ p = a * 2 ^ q) (he : e = (p : Int) - q) :
    IsNormal s (wholeKey a) (UnpackedFloat.round .binary64 s m e) := by
  have hm0 : m ≠ 0 := by
    rintro rfl
    rw [Nat.zero_mul] at h
    have hpos : 0 < a * 2 ^ q := Nat.mul_pos (by omega) (Nat.two_pow_pos q)
    omega
  have hlog := log2_mul_two_pow hm0 p
  rw [h, log2_mul_two_pow ha] at hlog
  have hamount : (e - Format.binary64.targetExponent (totalExponent m e)).toNat = 52 - m.log2 := by
    rw [targetExponent_eq, totalExponent]
    omega
  have hfull : 52 ≤ (m * 2 ^ (52 - m.log2)).log2 := by
    rw [log2_mul_two_pow hm0]
    omega
  have hmul : m * 2 ^ (52 - m.log2) * 2 ^ p = a * 2 ^ (q + (52 - m.log2)) := by
    rw [Nat.mul_right_comm, h, Nat.mul_assoc, ← Nat.pow_add]
  rw [UnpackedFloat.round]
  simp only [decreaseExponent, hamount, Nat.shiftLeft_eq]
  exact isNormal_roundWithAccuracy_of_mul_eq s ha halog hfull hmul (by omega)

theorem normalize_apply (s : Sign) (hm : m ≠ 0) (e : Int) :
    UnpackedFloat.normalize .binary64 (s.apply m) e .positive =
      UnpackedFloat.round .binary64 s m e := by
  rw [UnpackedFloat.normalize]
  cases s with
  | positive =>
    have hcompare : compare (Sign.positive.apply (m : Int)) 0 = .gt := by
      rw [Int.compare_eq_gt]
      show 0 < (m : Int)
      omega
    simp only [hcompare]
    rfl
  | negative =>
    have hcompare : compare (Sign.negative.apply (m : Int)) 0 = .lt := by
      rw [Int.compare_eq_lt]
      show -(m : Int) < 0
      omega
    have habs : (-Sign.negative.apply (m : Int)).toNat = m := by
      show (- -(m : Int)).toNat = m
      omega
    simp only [hcompare, habs]

theorem rounds_normalize {p q : Nat} {e : Int} (h : l * 2 ^ p = k * 2 ^ q) (he : e = (p : Int) - q)
    (hlog : k.natAbs.log2 < 1023) :
    Rounds k (UnpackedFloat.normalize .binary64 l e .positive) := by
  obtain ⟨s, hs⟩ := exists_sign l
  obtain ⟨s', hs'⟩ := exists_sign k
  generalize l.natAbs = m at hs
  generalize k.natAbs = a at hs' hlog
  subst hs hs'
  have hsame : s.apply (m * 2 ^ p : Nat) = s'.apply (a * 2 ^ q : Nat) := by
    rw [apply_mul, apply_mul] at h
    exact_mod_cast h
  by_cases hm : m = 0
  · subst hm
    have ha : a = 0 := by
      by_contra ha
      have hpos : a * 2 ^ q ≠ 0 := Nat.mul_ne_zero ha (Nat.ne_of_gt (Nat.two_pow_pos q))
      rw [Nat.zero_mul] at hsame
      exact absurd (apply_inj hpos hsame.symm).2 hpos
    subst ha
    cases s <;> cases s' <;> exact .zero .positive
  · have hpos : m * 2 ^ p ≠ 0 := Nat.mul_ne_zero hm (Nat.ne_of_gt (Nat.two_pow_pos p))
    obtain ⟨rfl, hmul⟩ := apply_inj hpos hsame
    have ha : a ≠ 0 := by
      rintro rfl
      rw [Nat.zero_mul] at hmul
      exact hpos hmul
    rw [normalize_apply s hm]
    exact .normal ha (isNormal_round s ha hlog hmul he)

end Stencil.Decimal
