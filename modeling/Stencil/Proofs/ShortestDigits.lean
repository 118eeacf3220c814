import Stencil.Proofs.FilledDigits
import Stencil.Proofs.NearestNumbers

/-!
The text of a large float. The shortest decimal lies among the quantities that are rounded to the
float, so the digits that are written name an integer that is rounded to the same float as the
integer the float comes from.
-/
namespace Stencil.Decimal

variable {a c m n e f t q δ den : Nat} {tie : Tie} {d : Dyadic} {x y : Float} {k l : Int}

/-! ### What is rounded to a significand -/

theorem div_mod_of_lt {r : Nat} (h : r < den) (q : Nat) :
    (q * den + r) / den = q ∧ (q * den + r) % den = r := by
  constructor
  · rw [Nat.add_comm, Nat.add_mul_div_right _ _ (by omega), Nat.div_eq_of_lt h, Nat.zero_add]
  · rw [Nat.add_comm, Nat.add_mul_mod_self_right, Nat.mod_eq_of_lt h]

theorem roundDiv_add (h : 2 * δ ≤ den) (heven : 2 * δ = den → q % 2 = 0) (hden : 0 < den) :
    roundDiv (q * den + δ) den = q := by
  obtain ⟨hquot, hrem⟩ := div_mod_of_lt (show δ < den by omega) q
  rw [roundDiv, hquot, hrem]
  split
  · rfl
  · rw [if_neg (by omega), heven (by omega), Nat.add_zero]

theorem roundDiv_sub (hq : 0 < q) (hpos : 0 < δ) (h : 2 * δ ≤ den)
    (heven : 2 * δ = den → q % 2 = 0) : roundDiv (q * den - δ) den = q := by
  obtain ⟨p, rfl⟩ : ∃ p, q = p + 1 := ⟨q - 1, by omega⟩
  obtain ⟨hquot, hrem⟩ := div_mod_of_lt (show den - δ < den by omega) p
  have hsplit : (p + 1) * den - δ = p * den + (den - δ) := by
    rw [Nat.add_mul, Nat.one_mul]
    omega
  rw [hsplit, roundDiv, hquot, hrem, if_neg (by omega)]
  split
  · rfl
  · have hodd := heven (by omega)
    omega

theorem nearestWhole_of_bounds (hlow : 2 ^ 52 * 2 ^ f ≤ n) (hhigh : n < 2 ^ 53 * 2 ^ f) :
    nearestWhole n = roundDiv n (2 ^ f) * 2 ^ f := by
  have hlog : n.log2 = 52 + f := by
    apply log2_of_bounds
    · rwa [Nat.pow_add]
    · rwa [Nat.add_right_comm, Nat.pow_add]
  rw [nearestWhole, hlog, Nat.add_sub_cancel_left]

/-- Up to half a place above a significand. -/
theorem nearestWhole_add (hlow : 2 ^ 52 ≤ m) (hhigh : m < 2 ^ 53) (h : 2 * δ ≤ 2 ^ f)
    (heven : 2 * δ = 2 ^ f → m % 2 = 0) : nearestWhole (m * 2 ^ f + δ) = m * 2 ^ f := by
  have hpos : 0 < 2 ^ f := Nat.two_pow_pos f
  have hleast : 2 ^ 52 * 2 ^ f ≤ m * 2 ^ f := Nat.mul_le_mul_right _ hlow
  have hmost : (m + 1) * 2 ^ f ≤ 2 ^ 53 * 2 ^ f := Nat.mul_le_mul_right _ hhigh
  rw [Nat.add_mul, Nat.one_mul] at hmost
  rw [nearestWhole_of_bounds (f := f) (by omega) (by omega), roundDiv_add h heven hpos]

/-- Up to half a place below a significand, or below the next power of two. -/
theorem nearestWhole_sub (hlow : 2 ^ 52 < m) (hhigh : m ≤ 2 ^ 53) (hpos : 0 < δ)
    (h : 2 * δ ≤ 2 ^ f) (heven : 2 * δ = 2 ^ f → m % 2 = 0) :
    nearestWhole (m * 2 ^ f - δ) = m * 2 ^ f := by
  have hleast : (2 ^ 52 + 1) * 2 ^ f ≤ m * 2 ^ f := Nat.mul_le_mul_right _ hlow
  have hmost : m * 2 ^ f ≤ 2 ^ 53 * 2 ^ f := Nat.mul_le_mul_right _ hhigh
  rw [Nat.add_mul, Nat.one_mul] at hleast
  rw [nearestWhole_of_bounds (f := f) (by omega) (by omega), roundDiv_sub (by omega) hpos h heven]

/-! ### Grids -/

/-- Whether a quantity is in an interval of which a quarter place is a number of units. -/
def Interval.Admits (i : Interval) (quarter point : Nat) : Prop :=
  i.low * quarter ≤ point ∧ point ≤ i.high * quarter ∧
    (i.closed = false → i.low * quarter ≠ point ∧ point ≠ i.high * quarter)

/-- A point that a grid offers is in the interval. -/
theorem admits_of_gridPoint? (h : gridPoint? tie d k = some c) :
    (Interval.around d).Admits (Nat.pow 2 (d.exponent - 2).toNat * Nat.pow 10 (-k).toNat)
      (c * (Nat.pow 2 (2 - d.exponent).toNat * Nat.pow 10 k.toNat)) := by
  have hinside {i : Interval} {quarter point : Nat}
      (h : (if i.closed = true then decide (i.low * quarter ≤ point) &&
          decide (point ≤ i.high * quarter)
        else decide (i.low * quarter < point) && decide (point < i.high * quarter)) = true) :
      i.Admits quarter point := by
    unfold Interval.Admits
    split at h
    · next hclosed =>
      rw [Bool.and_eq_true, decide_eq_true_eq, decide_eq_true_eq] at h
      refine ⟨h.1, h.2, fun hopen => ?_⟩
      rw [hclosed] at hopen
      contradiction
    · rw [Bool.and_eq_true, decide_eq_true_eq, decide_eq_true_eq] at h
      omega
  have heven {i : Interval} {b quarter step : Nat} (hbelow : i.Admits quarter (b * step))
      (habove : i.Admits quarter ((b + 1) * step)) (hc : b + b % 2 = c) :
      i.Admits quarter (c * step) := by
    rcases Nat.mod_two_eq_zero_or_one b with hmod | hmod
    · rwa [← hc, hmod]
    · rwa [← hc, hmod]
  unfold gridPoint? at h
  dsimp only at h
  split at h
  · contradiction
  · next hbelow _ =>
    obtain rfl := Option.some.inj h
    exact hinside hbelow
  · next _ habove =>
    obtain rfl := Option.some.inj h
    exact hinside habove
  · next hbelow habove =>
    split at h
    · obtain rfl := Option.some.inj h
      exact hinside hbelow
    · split at h
      · obtain rfl := Option.some.inj h
        exact hinside habove
      · cases tie with
        | up =>
          obtain rfl := Option.some.inj h
          exact hinside habove
        | toEven => exact heven (hinside hbelow) (hinside habove) (Option.some.inj h)

theorem admits_mul_iff {i : Interval} {s quarter point : Nat} (hs : 0 < s) :
    i.Admits (quarter * s) (point * s) ↔ i.Admits quarter point := by
  unfold Interval.Admits
  rw [← Nat.mul_assoc, ← Nat.mul_assoc, Nat.mul_le_mul_right_iff hs, Nat.mul_le_mul_right_iff hs,
    Ne, Ne, Nat.mul_left_inj (Nat.ne_of_gt hs), Nat.mul_left_inj (Nat.ne_of_gt hs)]

/-- The interval around a significand without digits behind the point holds what is rounded to
it. -/
theorem nearestWhole_of_admits (negative : Bool) (hlow : 2 ^ 52 ≤ m) (hhigh : m < 2 ^ 53)
    (h : (Interval.around ⟨negative, m, e⟩).Admits (2 ^ e) (4 * n)) :
    nearestWhole n = m * 2 ^ e := by
  obtain ⟨hbelow, habove, hopen⟩ := h
  have hpos : 0 < 2 ^ e := Nat.two_pow_pos e
  have hleast : 2 ^ 52 * 2 ^ e ≤ m * 2 ^ e := Nat.mul_le_mul_right _ hlow
  have hupper : (Interval.around ⟨negative, m, e⟩).high * 2 ^ e = 4 * (m * 2 ^ e) + 2 * 2 ^ e := by
    show (4 * m + 2) * 2 ^ e = _
    rw [Nat.add_mul, Nat.mul_assoc]
  have hlower : (Interval.around ⟨negative, m, e⟩).low * 2 ^ e =
      4 * (m * 2 ^ e) - (if m = 2 ^ 52 then 1 else 2) * 2 ^ e := by
    have hfiner : (m == significandSize && decide ((e : Int) > -1074)) = decide (m = 2 ^ 52) := by
      rw [decide_eq_true (show (e : Int) > -1074 by omega), Bool.and_true]
      rfl
    show (4 * m - (if (m == significandSize && decide ((e : Int) > -1074)) = true then 1 else 2)) *
      2 ^ e = _
    rw [hfiner, Nat.sub_mul, Nat.mul_assoc]
    simp only [decide_eq_true_eq]
  have hends (hodd : m % 2 ≠ 0) : (Interval.around ⟨negative, m, e⟩).low * 2 ^ e ≠ 4 * n ∧
      4 * n ≠ (Interval.around ⟨negative, m, e⟩).high * 2 ^ e :=
    hopen (beq_eq_false_iff_ne.mpr hodd)
  rw [hupper] at habove hends
  rw [hlower] at hbelow hends
  by_cases hle : m * 2 ^ e ≤ n
  · obtain ⟨δ, rfl⟩ := Nat.exists_eq_add_of_le hle
    refine nearestWhole_add hlow hhigh (by omega) fun htie => ?_
    by_contra hodd
    have := (hends hodd).2
    omega
  · obtain ⟨δ, hδ, hn⟩ : ∃ δ, 0 < δ ∧ n = m * 2 ^ e - δ := ⟨m * 2 ^ e - n, by omega, by omega⟩
    by_cases hm : m = 2 ^ 52
    -- Below a power of two the places are half as large, and so is the part of the interval.
    · rw [if_pos hm] at hbelow
      obtain ⟨f, rfl⟩ : ∃ f, e = f + 1 := by
        cases e with
        | zero => omega
        | succ f => exact ⟨f, rfl⟩
      have hcarry : m * 2 ^ (f + 1) = 2 ^ 53 * 2 ^ f := by
        rw [hm, Nat.pow_succ' (n := f)]
        omega
      have hhalf : 2 ^ (f + 1) = 2 * 2 ^ f := Nat.pow_succ'
      rw [hn, hcarry]
      exact nearestWhole_sub (by decide) (by decide) hδ (by omega) fun _ => by decide
    · rw [if_neg hm] at hbelow hends
      rw [hn]
      refine nearestWhole_sub (by omega) (by omega) hδ (by omega) fun htie => ?_
      by_contra hodd
      have := (hends hodd).1
      omega

/-- What a grid of whole numbers offers is rounded to the significand. -/
theorem nearestWhole_of_gridPoint? (negative : Bool) (hlow : 2 ^ 52 ≤ m) (hhigh : m < 2 ^ 53)
    (h : gridPoint? tie ⟨negative, m, e⟩ t = some c) : nearestWhole (c * 10 ^ t) = m * 2 ^ e := by
  apply nearestWhole_of_admits negative hlow hhigh
  have hadmits := admits_of_gridPoint? h
  have hpowers : (-(t : Int)).toNat = 0 := by omega
  have hquarter : 2 ^ ((e : Int) - 2).toNat * 4 = 2 ^ e * 2 ^ (2 - (e : Int)).toNat := by
    show 2 ^ ((e : Int) - 2).toNat * 2 ^ 2 = _
    rw [← Nat.pow_add, ← Nat.pow_add]
    congr 1
    omega
  have hpoint : c * (2 ^ (2 - (e : Int)).toNat * 10 ^ t) * 4 =
      4 * (c * 10 ^ t) * 2 ^ (2 - (e : Int)).toNat := by
    rw [Nat.mul_comm _ 4, Nat.mul_comm (2 ^ _), ← Nat.mul_assoc c, Nat.mul_assoc 4]
  have hscaled := (admits_mul_iff (s := 4) (by decide)).mpr hadmits
  dsimp only at hscaled
  rw [hpowers] at hscaled
  change Interval.Admits _ (2 ^ ((e : Int) - 2).toNat * 1 * 4)
    (c * (2 ^ (2 - (e : Int)).toNat * 10 ^ t) * 4) at hscaled
  rw [Nat.mul_one, hquarter, hpoint, admits_mul_iff (Nat.two_pow_pos _)] at hscaled
  exact hscaled

theorem exists_shortestFrom (tie : Tie) (negative : Bool) (e : Nat) (hlow : 2 ^ 52 ≤ m)
    (hhigh : m < 2 ^ 53) (n : Nat) :
    ∃ c t : Nat, shortestFrom tie ⟨negative, m, e⟩ n = ⟨c, t⟩ ∧
      nearestWhole (c * 10 ^ t) = m * 2 ^ e := by
  have hexact : exactExponent ⟨negative, m, e⟩ = 0 := Int.min_eq_right (Int.natCast_nonneg e)
  induction n with
  | zero =>
    refine ⟨m * 2 ^ e, 0, ?_, ?_⟩
    · rw [shortestFrom, hexact]
      show (⟨m * 2 ^ ((e : Int) - 0).toNat * 1, 0⟩ : Numeral) = _
      rw [Nat.mul_one, Int.sub_zero, Int.toNat_natCast]
      rfl
    · rw [Nat.pow_zero, Nat.mul_one]
      exact nearestWhole_eq_self_iff.mpr ⟨m, e, hhigh, rfl⟩
  | succ n ih =>
    rw [shortestFrom, hexact, Int.zero_add]
    cases hgrid : gridPoint? tie ⟨negative, m, e⟩ (n + 1 : Nat) with
    | none => exact ih
    | some c => exact ⟨c, n + 1, rfl, nearestWhole_of_gridPoint? negative hlow hhigh hgrid⟩

/-- The shortest digits of a float without digits behind the point name what is rounded to it. -/
theorem exists_digits_of_shortest (tie : Tie) (negative : Bool) (e : Nat) (hlow : 2 ^ 52 ≤ m)
    (hhigh : m < 2 ^ 53) :
    ∃ c t : Nat, shortest tie ⟨negative, m, e⟩ = ⟨c, t⟩ ∧
      nearestWhole (c * 10 ^ t) = m * 2 ^ e := by
  rw [shortest, if_neg (by dsimp only; omega)]
  exact exists_shortestFrom tie negative e hlow hhigh _

/-! ### Written forms -/

theorem digitChars_inj (h : digitChars m = digitChars n) : m = n := by
  rw [← Value.digitsValue_digitChars_eq m, h, Value.digitsValue_digitChars_eq]

theorem digitChars_ne_cons_dash (n : Nat) (rest : List Char) : digitChars n ≠ '-' :: rest := by
  intro h
  have hdigits := Value.isPosition_digitChars n
  rw [h, isPosition_cons] at hdigits
  exact absurd hdigits.1 (by decide)

theorem wholeText_inj (h : wholeText k = wholeText l) : k = l := by
  cases k with
  | ofNat m =>
    cases l with
    | ofNat n => rw [digitChars_inj (String.ofList_inj.mp h)]
    | negSucc n => exact absurd (String.ofList_inj.mp h) (digitChars_ne_cons_dash _ _)
  | negSucc m =>
    cases l with
    | ofNat n => exact absurd (String.ofList_inj.mp h).symm (digitChars_ne_cons_dash _ _)
    | negSucc n =>
      have hdigits := digitChars_inj (List.cons.inj (String.ofList_inj.mp h)).2
      rw [Nat.add_right_cancel hdigits]

theorem positional_natCast (hc : c ≠ 0) (t : Nat) :
    positional ⟨c, t⟩ = digitChars (c * 10 ^ t) := by
  have hdigits : (zeros t).all Text.isAsciiDigit = true := by
    rw [zeros, List.all_replicate]
    cases t <;> rfl
  have hfold := digitChars_foldl (Nat.pos_of_ne_zero hc) hdigits
  rw [foldl_zeros] at hfold
  rw [hfold, positional, if_pos (Int.natCast_nonneg t)]
  rfl

theorem withSign_digitChars (s : Float.Model.UnpackedFloat.Sign) (hn : n ≠ 0) :
    withSign (s == .negative) (digitChars n) = wholeText (s.apply n) := by
  cases s with
  | positive => rfl
  | negative =>
    obtain ⟨p, rfl⟩ := Nat.exists_eq_succ_of_ne_zero hn
    rfl

end Stencil.Decimal

namespace Stencil.Number

open Decimal

variable {x y : Float} {k l : Int}

/-- A large float of an integer is written as an integer that is rounded alike. -/
theorem exists_text_float (hx : IsNearest x k) (hk : 9000000000000000 ≤ k.natAbs) :
    ∃ l, (Number.float x).text = wholeText l ∧ nearestInteger l = nearestInteger k := by
  obtain ⟨d, hd, hspells⟩ := hx.exists_spells
  have hplain : ¬ x.abs < plainBound := by
    rw [abs_lt_iff hx isNearest_plainBound (by decide) (by decide)]
    omega
  have htext : (Number.float x).text = withSign d.negative (positional (shortest .up d)) := by
    rw [text, hd]
    simp only [hplain, decide_false, Bool.and_false, Bool.false_eq_true, if_false]
  have hlarge : 9000000000000000 ≤ (nearestInteger k).natAbs := by
    have hmono := nearestWhole_mono hk
    rwa [nearestWhole_of_lt (by decide), ← natAbs_nearestInteger] at hmono
  generalize nearestInteger k = r at hspells hlarge
  cases hspells with
  | zero => contradiction
  | @normal s m j a hlow hhigh hmul =>
    rw [natAbs_apply] at hlarge
    have hj : 52 ≤ j := by
      by_contra hj
      have hle : m * 2 ^ j ≤ m * 2 ^ 51 := Nat.mul_le_mul_left m
        (Nat.pow_le_pow_right (by decide) (by omega))
      omega
    obtain ⟨e, rfl⟩ := Nat.exists_eq_add_of_le hj
    have hexponent : ((52 + e : Nat) : Int) - 52 = e := by omega
    have ha : m * 2 ^ e = a := by
      apply Nat.eq_of_mul_eq_mul_right (Nat.two_pow_pos 52)
      rw [← hmul, Nat.mul_assoc, ← Nat.pow_add, Nat.add_comm]
    rw [hexponent] at htext
    obtain ⟨c, t, hshortest, hnearest⟩ :=
      exists_digits_of_shortest .up (s == .negative) e hlow hhigh
    have hc : c ≠ 0 := by
      rintro rfl
      rw [Nat.zero_mul, nearestWhole_zero] at hnearest
      omega
    have hvalue : c * 10 ^ t ≠ 0 := Nat.mul_ne_zero hc (Nat.ne_of_gt (Nat.pow_pos (by decide)))
    refine ⟨s.apply (c * 10 ^ t : Nat), ?_, ?_⟩
    · rw [htext, hshortest, positional_natCast hc, withSign_digitChars s hvalue]
    · rw [nearestInteger_apply, hnearest, ha]

/-- What is written for the float of an integer is an integer that is rounded alike. -/
theorem exists_text_ofFloat (hx : IsNearest x k) :
    ∃ l, (ofFloat x).text = wholeText l ∧ nearestInteger l = nearestInteger k := by
  by_cases hk : k.natAbs < 9000000000000000
  · exact ⟨k, text_ofFloat_of_lt hx hk, rfl⟩
  · rw [(ofFloat_eq hx).2 (by omega)]
    exact exists_text_float hx (by omega)

/-- Integers that are rounded alike are written alike as floats. -/
theorem text_ofFloat_congr (hx : IsNearest x k) (hy : IsNearest y l)
    (h : nearestInteger k = nearestInteger l) : (ofFloat x).text = (ofFloat y).text := by
  by_cases hk : k = 0
  · have hl : l = 0 := by
      rw [← nearestInteger_eq_zero_iff, ← h, hk]
      rfl
    rw [text_ofFloat_of_lt hx (by omega), text_ofFloat_of_lt hy (by omega), hk, hl]
  · rw [hx.eq_of_ne_zero hy h hk]

/-- Whether an integer that is made a float is still written with its own digits. -/
def IsPlain (n : Int) : Prop := (ofFloat (Float.ofInt n)).text = wholeText n

theorem isPlain_of_lt (hk : k.natAbs < 2 ^ 53) : IsPlain k := by
  obtain ⟨l, htext, hnearest⟩ := exists_text_ofFloat (isNearest_ofInt (k := k) (by omega))
  rw [IsPlain, htext, eq_of_nearestInteger_eq hnearest hk]

/-- The float of an integer is written as another integer exactly if this one is rounded alike and
is written with its own digits. -/
theorem text_ofFloat_eq_iff (hx : IsNearest x k) (hl : l.natAbs < 2 ^ 64) :
    (ofFloat x).text = wholeText l ↔ nearestInteger k = nearestInteger l ∧ IsPlain l := by
  constructor
  · intro h
    obtain ⟨l', htext, hnearest⟩ := exists_text_ofFloat hx
    obtain rfl : l' = l := wholeText_inj (htext.symm.trans h)
    refine ⟨hnearest.symm, ?_⟩
    rw [IsPlain, ← text_ofFloat_congr hx (isNearest_ofInt hl) hnearest.symm, h]
  · rintro ⟨hnearest, hplain⟩
    rw [text_ofFloat_congr hx (isNearest_ofInt hl) hnearest]
    exact hplain

end Stencil.Number
