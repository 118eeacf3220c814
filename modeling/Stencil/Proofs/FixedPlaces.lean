import Mathlib.Algebra.Order.Field.Basic
import Mathlib.Algebra.Order.Field.Rat
import Mathlib.Tactic.FieldSimp
import Mathlib.Tactic.Linarith
import Stencil.Expr.Eval
import Stencil.Library.Format
import Stencil.Proofs.FilledDigits
import Stencil.Proofs.IntegerConversion
import Stencil.Proofs.ValueOrder

/-!
Numbers with fixed places. The digits that are written are those of the exact quantity of a float,
rounded once, so what is written differs from the quantity by at most half of its last place,
however large or small the float is.
-/
namespace Stencil.Decimal

open Text

/-- The exact quantity. -/
def Dyadic.value (x : Dyadic) : ℚ :=
  (if x.negative then -1 else 1) * (x.mantissa * 2 ^ x.exponent)

/-- A decimal in its written form: a sign, digits, and digits behind a point. -/
structure FixedForm where
  negative : Bool
  whole : List Char
  fraction : List Char

namespace FixedForm

/-- Its text. The point is there for the digits behind it. -/
def source (t : FixedForm) : List Char :=
  (if t.negative then ['-'] else []) ++ t.whole ++
    if t.fraction = [] then [] else '.' :: t.fraction

/-- The quantity that it is read as. -/
def value (t : FixedForm) : ℚ :=
  (if t.negative then -1 else 1) * (digitsValue (t.whole ++ t.fraction) / 10 ^ t.fraction.length)

/-- At least one digit, and exactly so many behind the point. -/
structure HasPlaces (t : FixedForm) (places : Nat) : Prop where
  whole_ne_nil : t.whole ≠ []
  digits : ∀ c ∈ t.whole ++ t.fraction, isAsciiDigit c = true
  length_fraction : t.fraction.length = places

end FixedForm

variable {num den places : Nat} {x : Float} {d : Dyadic}

/-! ### Rounding a quantity -/

/-- A quotient is rounded by at most a half, here multiplied by twice the divisor. -/
theorem roundDiv_mul_bounds (num : Nat) (hden : 0 < den) :
    2 * num ≤ 2 * (roundDiv num den * den) + den ∧
      2 * (roundDiv num den * den) ≤ 2 * num + den := by
  have hsplit := Nat.div_add_mod num den
  have hrest := Nat.mod_lt num hden
  rw [Nat.mul_comm] at hsplit
  unfold roundDiv
  dsimp only
  generalize num / den = q at hsplit ⊢
  generalize num % den = r at hsplit hrest ⊢
  split
  · omega
  · split
    · rw [Nat.add_mul, Nat.one_mul]
      omega
    · rcases Nat.mod_two_eq_zero_or_one q with heven | hodd
      · rw [heven, Nat.add_zero]
        omega
      · rw [hodd, Nat.add_mul, Nat.one_mul]
        omega

theorem abs_roundDiv_sub_le (num : Nat) (hden : 0 < den) :
    |(roundDiv num den : ℚ) - num / den| ≤ 1 / 2 := by
  obtain ⟨hlow, hhigh⟩ := roundDiv_mul_bounds num hden
  have hpos : (0 : ℚ) < den := by exact_mod_cast hden
  have hlow' : 2 * (num : ℚ) ≤ 2 * (roundDiv num den * den) + den := by exact_mod_cast hlow
  have hhigh' : 2 * ((roundDiv num den : ℚ) * den) ≤ 2 * num + den := by exact_mod_cast hhigh
  have hquot : (num : ℚ) / den * den = num := div_mul_cancel₀ _ (ne_of_gt hpos)
  rw [abs_le]
  constructor
  · by_contra hlt
    nlinarith
  · by_contra hlt
    nlinarith

/-- The units of the last place are the exact quantity, rounded. -/
theorem abs_scaled_sub_le (places : Nat) (d : Dyadic) :
    |(scaled places d : ℚ) - d.mantissa * 2 ^ d.exponent * 10 ^ places| ≤ 1 / 2 := by
  rw [scaled]
  split
  · next hneg =>
    obtain ⟨k, hk⟩ : ∃ k : Nat, d.exponent = -(k : Int) := ⟨(-d.exponent).toNat, by omega⟩
    have hround := abs_roundDiv_sub_le (d.mantissa * 10 ^ places) (Nat.two_pow_pos k)
    have hshift : (-d.exponent).toNat = k := by omega
    have hquantity : (d.mantissa : ℚ) * 2 ^ d.exponent * 10 ^ places =
        (d.mantissa * 10 ^ places : Nat) / (2 ^ k : Nat) := by
      rw [hk, zpow_neg, zpow_natCast]
      push_cast
      rw [mul_right_comm, div_eq_mul_inv]
    rw [hshift, hquantity]
    exact hround
  · next hnonneg =>
    obtain ⟨k, hk⟩ : ∃ k : Nat, d.exponent = (k : Int) := ⟨d.exponent.toNat, by omega⟩
    have hexact : ((d.mantissa * Nat.pow 2 d.exponent.toNat * Nat.pow 10 places : Nat) : ℚ) =
        d.mantissa * 2 ^ d.exponent * 10 ^ places := by
      rw [hk, Int.toNat_natCast, zpow_natCast]
      exact_mod_cast rfl
    rw [hexact, sub_self, abs_zero]
    norm_num

/-! ### The written form -/

/-- The digits of a magnitude, with the point among them. -/
theorem exists_fixedMagnitude (places : Nat) (d : Dyadic) (negative : Bool) :
    ∃ t : FixedForm, t.negative = negative ∧ t.HasPlaces places ∧
      digitsValue (t.whole ++ t.fraction) = scaled places d ∧
      withSign negative (fixedMagnitude places d) = String.ofList t.source := by
  generalize hunits : scaled places d = units
  by_cases hplaces : places = 0
  · subst hplaces
    refine ⟨⟨negative, digitChars units, []⟩, rfl, ⟨Nat.toDigits_ne_nil, ?_, rfl⟩, ?_, ?_⟩
    · intro c hc
      rw [List.append_nil] at hc
      exact isAsciiDigit_of_mem_digitChars hc
    · rw [List.append_nil, Value.digitsValue_digitChars_eq]
    · have hwhole : units / Nat.pow 10 0 = units := Nat.div_one units
      rw [fixedMagnitude, hunits, hwhole, if_pos rfl]
      cases negative <;> rfl
  · have hpos : 0 < 10 ^ places := Nat.pow_pos (by decide)
    have hlength : (filled places (units % 10 ^ places)).length = places :=
      length_filled (by omega) (Nat.mod_lt units hpos)
    have hne : filled places (units % 10 ^ places) ≠ [] := by
      intro hnil
      rw [hnil] at hlength
      exact hplaces hlength.symm
    refine ⟨⟨negative, digitChars (units / 10 ^ places), filled places (units % 10 ^ places)⟩, rfl,
      ⟨Nat.toDigits_ne_nil, ?_, hlength⟩, ?_, ?_⟩
    · intro c hc
      rcases List.mem_append.mp hc with hc | hc
      · exact isAsciiDigit_of_mem_digitChars hc
      · exact isAsciiDigit_of_mem_filled hc
    · rw [digitsValue_append, hlength, Value.digitsValue_digitChars_eq, digitsValue_filled,
        Nat.div_add_mod']
    · rw [fixedMagnitude, hunits, if_neg hplaces, FixedForm.source]
      dsimp only
      rw [if_neg hne]
      cases negative <;> rfl

/-- Written with the sign of the quantity, the units of the last place differ from it by at most
half a unit. -/
theorem FixedForm.HasPlaces.abs_value_sub_le {t : FixedForm} (ht : t.HasPlaces places)
    (hunits : digitsValue (t.whole ++ t.fraction) = scaled places d)
    (hsign : t.negative = (d.negative && d.mantissa != 0)) :
    |t.value - d.value| ≤ 1 / 2 * (1 / 10) ^ places := by
  have hround := abs_scaled_sub_le places d
  have hpos : (0 : ℚ) < 10 ^ places := by positivity
  have hmagnitude : |(scaled places d : ℚ) / 10 ^ places - d.mantissa * 2 ^ d.exponent| ≤
      1 / 2 * (1 / 10) ^ places := by
    have hscale : (scaled places d : ℚ) / 10 ^ places - d.mantissa * 2 ^ d.exponent =
        (scaled places d - d.mantissa * 2 ^ d.exponent * 10 ^ places) / 10 ^ places := by
      field_simp
    rw [hscale, abs_div, abs_of_pos hpos, one_div_pow, mul_one_div]
    exact div_le_div_of_nonneg_right hround (le_of_lt hpos)
  rw [value, Dyadic.value, hunits, ht.length_fraction, hsign]
  by_cases hzero : d.mantissa = 0
  · rw [hzero] at hmagnitude ⊢
    simpa using hmagnitude
  · have hnonzero : (d.mantissa != 0) = true := bne_iff_ne.mpr hzero
    rw [hnonzero, Bool.and_true, ← mul_sub, abs_mul]
    cases d.negative <;> simpa using hmagnitude

/-! ### The sign -/

/-- The place of a float is before zero exactly if it has a sign and is not zero. -/
theorem exists_orderKey (h : Binary64.ofFloat x = .finite d) :
    ∃ k, orderKey x = some k ∧ ((d.negative && d.mantissa != 0) = true ↔ k < 0) := by
  have hbound : x.toBits.toNat < 2 ^ 64 := x.toBits.toNat_lt
  rw [Binary64.ofFloat] at h
  rw [orderKey]
  generalize x.toBits.toNat = bits at h hbound ⊢
  have hsize : significandSize = 2 ^ 52 := rfl
  have hexponents : Nat.pow 2 11 = 2 ^ 11 := rfl
  have hhalf : Nat.pow 2 63 = 2 ^ 63 := rfl
  rw [Binary64.ofBits] at h
  simp only [hsize, hexponents, hhalf] at h ⊢
  have hmantissa : bits / 2 ^ 52 % 2 ^ 11 ≠ 2047 ∧ d.negative = decide (bits ≥ 2 ^ 63) ∧
      (d.mantissa ≠ 0 ↔ bits % 2 ^ 63 ≠ 0) := by
    split at h
    · split at h <;> contradiction
    · next hlimit =>
      split at h
      · obtain rfl := Binary64.finite.inj h
        exact ⟨hlimit, rfl, by dsimp only; omega⟩
      · obtain rfl := Binary64.finite.inj h
        exact ⟨hlimit, rfl, by dsimp only; omega⟩
  obtain ⟨hlimit, hnegative, hzero⟩ := hmantissa
  rw [if_neg (by omega), hnegative, Bool.and_eq_true, decide_eq_true_eq, bne_iff_ne, hzero]
  split
  · exact ⟨_, rfl, by omega⟩
  · exact ⟨_, rfl, by omega⟩

end Stencil.Decimal

namespace Stencil.Number

open Decimal

variable {x : Number} {d : Decimal.Dyadic}

/-- Going before zero is a matter of the sign of the float, also for an integer. -/
theorem compare?_zero_iff (h : Binary64.ofFloat x.toFloat = .finite d) :
    x.compare? (.int 0) = some .lt ↔ (d.negative && d.mantissa != 0) = true := by
  obtain ⟨k, hk, hsign⟩ := exists_orderKey h
  have hzero : integerKey 0 = 0 := rfl
  rw [hsign]
  cases x with
  | int n =>
    have hplace : integerKey n.toInt = k := Option.some.inj ((place?_int n).symm.trans hk)
    have hmono := integerKey_mono (m := 0) (n := n.toInt)
    have hpos (hn : n.toInt < 0) : integerKey n.toInt < 0 := by
      have hkey : 0 < wholeKey n.toInt.natAbs := wholeKey_pos (by omega)
      rw [integerKey, if_pos hn]
      omega
    show some (compare n.toInt 0) = some .lt ↔ k < 0
    rw [Option.some.injEq, Int.compare_eq_lt]
    omega
  | float y =>
    have hkey : (Number.float y).place? = some k := hk
    rw [compare?_of_isFloat (.inl ⟨y, rfl⟩), hkey, place?_int]
    show some (compare k (integerKey 0)) = some .lt ↔ k < 0
    rw [hzero, Option.some.injEq, Int.compare_eq_lt]

end Stencil.Number

namespace Stencil.Library.Format

open Decimal

variable {x : Number} {places : Int64}

theorem decimalsArg_int :
    decimalsArg [.int places] 0 0 =
      if 0 ≤ places.toInt ∧ places.toInt ≤ 100 then .ok places.toInt.toNat
      else complain (.decimalsOutOfRange places) :=
  rfl

/-- The helper does what the method does. -/
theorem ownMethod?_toFixed (v : Value) {args : List Value} (h : args.length ≤ 1) :
    Expr.ownMethod? v "toFixed" args = some (format (v :: args)) := by
  match args, h with
  | [], _ => rfl
  | [p], _ => rfl

theorem toFixed_int (v : Value) {y : Float} (hv : numeric? v = some y) (places : Int64) :
    toFixed v (.int places) =
      if 0 ≤ places.toInt ∧ places.toInt ≤ 100 then .ok (.string (fixed y places.toInt.toNat))
      else complain (.decimalsOutOfRange places) := by
  rw [toFixed, hv]
  show (decimalsArg [.int places] 0 0 >>= fun n => pure (Value.string (fixed y n))) = _
  rw [decimalsArg_int]
  split <;> rfl

/-- A number of places outside the range is an error, whatever is to be written. -/
theorem exists_toFixed_error (v : Value) (h : ¬ (0 ≤ places.toInt ∧ places.toInt ≤ 100)) :
    ∃ e, toFixed v (.int places) = .error e := by
  cases hv : numeric? v with
  | none =>
    refine ⟨.invalidArgument (.notFormattable v.kind), ?_⟩
    rw [toFixed, hv]
    rfl
  | some y =>
    refine ⟨.invalidArgument (.decimalsOutOfRange places), ?_⟩
    rw [toFixed_int v hv, if_neg h]
    rfl

/-- An integer, or a finite float, has a finite quantity as a float. -/
theorem exists_quantity (hx : ∀ y, x = .float y → isFinite y = true) :
    ∃ q, Binary64.ofFloat x.toFloat = .finite q := by
  cases x with
  | int n =>
    obtain ⟨q, hq, -⟩ := (isNearest_ofInt_toInt n).exists_spells
    exact ⟨q, hq⟩
  | float y =>
    have hfinite := hx y rfl
    rw [isFinite] at hfinite
    show ∃ q, Binary64.ofFloat y = .finite q
    cases hy : Binary64.ofFloat y with
    | finite q => exact ⟨q, rfl⟩
    | infinite | nan =>
      rw [hy] at hfinite
      contradiction

/-- A number is written with exactly the places asked for, from none to a hundred, and what is
written differs from its quantity as a float by at most half of the last place. Only numbers before
zero have a sign. The method and the helper are the same, and refuse any other number of places. -/
theorem toFixed_exact (x : Number) (places : Int64)
    (hx : ∀ y, x = .float y → isFinite y = true) :
    (0 ≤ places.toInt → places.toInt ≤ 100 →
      ∃ (q : Decimal.Dyadic) (t : FixedForm), Binary64.ofFloat x.toFloat = .finite q ∧
        toFixed (.number x) (.int places) = .ok (.ofChars t.source) ∧
        t.HasPlaces places.toInt.toNat ∧
        |t.value - q.value| ≤ 1 / 2 * (1 / 10) ^ places.toInt.toNat ∧
        (t.negative = true ↔ x.compare? (.int 0) = some .lt)) ∧
      (∀ v, ¬ (0 ≤ places.toInt ∧ places.toInt ≤ 100) →
        ∃ e, toFixed v (.int places) = .error e) ∧
      (∀ v p, format [v, p] = toFixed v p) ∧
      ∀ v args, args.length ≤ 1 →
        Expr.ownMethod? v "toFixed" args = some (format (v :: args)) := by
  refine ⟨fun hlow hhigh => ?_, fun v h => exists_toFixed_error v h, fun v p => rfl,
    fun v args h => ownMethod?_toFixed v h⟩
  obtain ⟨q, hq⟩ := exists_quantity hx
  obtain ⟨t, hnegative, ht, hunits, htext⟩ :=
    exists_fixedMagnitude places.toInt.toNat q (q.negative && q.mantissa != 0)
  refine ⟨q, t, hq, ?_, ht, ht.abs_value_sub_le hunits hnegative, ?_⟩
  · rw [toFixed_int (.number x) rfl, if_pos ⟨hlow, hhigh⟩, fixed, hq]
    exact congrArg (fun s => Except.ok (Value.string s)) htext
  · rw [Number.compare?_zero_iff hq, hnegative]

/-- A run of nines is carried through the point. -/
theorem toFixed_exact_nines :
    let x := Number.float (-999.9996)
    (∀ y, x = .float y → isFinite y = true) ∧
      toFixed (.number x) (.int 3) = .ok (.string "-1000.000") ∧
      ∃ (q : Decimal.Dyadic) (t : FixedForm), Binary64.ofFloat x.toFloat = .finite q ∧
        toFixed (.number x) (.int 3) = .ok (.ofChars t.source) ∧ t.HasPlaces 3 ∧
        |t.value - q.value| ≤ 1 / 2 * (1 / 10) ^ 3 ∧
        (t.negative = true ↔ x.compare? (.int 0) = some .lt) := by
  intro x
  have hx : ∀ y, x = .float y → isFinite y = true := by
    intro y hy
    obtain rfl : (-999.9996 : Float) = y := Number.float.inj hy
    decide +kernel
  have hdigits : fixed (-999.9996) 3 = "-1000.000" := by decide +kernel
  refine ⟨hx, ?_, (toFixed_exact x 3 hx).1 (by decide) (by decide)⟩
  rw [toFixed_int (.number x) rfl, if_pos ⟨by decide, by decide⟩]
  exact congrArg (fun s => Except.ok (Value.string s)) hdigits

end Stencil.Library.Format
