import Mathlib.Algebra.Order.Field.Basic
import Mathlib.Algebra.Order.Field.Rat
import Mathlib.Data.List.TakeWhile
import Stencil.Library.Conversion
import Stencil.Proofs.FiniteFloats
import Stencil.Proofs.IntegerConversion

/-!
Texts of digits with a point. Such a text is read as the decimal that it spells, so that it always
names a float. It names an integer as well unless it is so great that the float is infinite.
-/
namespace Stencil.Decimal

open Text

variable {s w f : List Char} {c : Char}

/-- Digits in front of a point and behind it; the point may be missing if nothing is behind it. -/
structure PointedDigits (s w f : List Char) : Prop where
  whole : ∀ c ∈ w, isAsciiDigit c = true
  fraction : ∀ c ∈ f, isAsciiDigit c = true
  ne_nil : w ++ f ≠ []
  spelled : s = w ++ '.' :: f ∨ (s = w ∧ f = [])

/-- The digits behind the first point. -/
def places (s : List Char) : Nat := (s.dropWhile (· != '.')).length - 1

/-- The number that digits with a point spell. -/
def spelledValue (s : List Char) : ℚ := digitsValue (s.erase '.') / 10 ^ places s

theorem asciiLower_of_isAsciiDigit (h : isAsciiDigit c = true) : asciiLower c = c := by
  refine if_neg fun hcapital => ?_
  simp only [isAsciiDigit, Bool.and_eq_true, decide_eq_true_eq, Char.le_def,
    UInt32.le_iff_toNat_le] at h hcapital
  have hlow : 65 ≤ c.toNat := hcapital.1
  have hhigh : c.toNat ≤ 57 := h.2
  omega

theorem exists_pointedDigits (h : Library.Conversion.isDigitsWithPoint s = true) :
    ∃ w f, PointedDigits s w f := by
  simp only [Library.Conversion.isDigitsWithPoint, Bool.and_eq_true, Bool.not_eq_true',
    List.isEmpty_eq_false_iff, List.all_eq_true] at h
  obtain ⟨hne, hdigits⟩ := h
  by_cases hpoint : '.' ∈ s
  · obtain ⟨w, f, hw, rfl, herase⟩ := List.exists_erase_eq hpoint
    rw [herase] at hne hdigits
    exact ⟨w, f, fun c hc => hdigits c (List.mem_append_left f hc),
      fun c hc => hdigits c (List.mem_append_right w hc), hne, .inl rfl⟩
  · rw [List.erase_of_not_mem hpoint] at hne hdigits
    exact ⟨s, [], hdigits, fun c hc => absurd hc List.not_mem_nil, by rwa [List.append_nil],
      .inr ⟨rfl, rfl⟩⟩

theorem spelledValue_of_natural? {m : Nat} (hm : natural? s = some m) : spelledValue s = m := by
  rw [natural?] at hm
  split at hm
  · next hdigits =>
    rw [Bool.and_eq_true, List.all_eq_true] at hdigits
    have hpoint : ∀ c ∈ s, (c != '.') = true := fun c hc =>
      bne_iff_ne.mpr (Value.ne_of_isAsciiDigit (hdigits.2 c hc) (by decide))
    have hnone : '.' ∉ s := fun hc => bne_iff_ne.mp (hpoint _ hc) rfl
    rw [spelledValue, places, List.erase_of_not_mem hnone, List.dropWhile_eq_nil_iff.mpr hpoint,
      Option.some.inj hm]
    exact div_one _
  · contradiction

/-- What fits in 64 bits lies far below the bound. -/
theorem spelledValue_lt_of_word? {t : List Char} {negative : Bool} {n : Int64}
    (ht : splitSign t = (negative, s)) (hn : word? t = some n) :
    spelledValue s < overflowBound := by
  have hbound : 2 ^ 63 < overflowBound := by decide +kernel
  generalize overflowBound = b at hbound ⊢
  have hmin : Int64.minValue.toInt = -2 ^ 63 := rfl
  have hmax : Int64.maxValue.toInt = 2 ^ 63 - 1 := rfl
  rw [word?] at hn
  split at hn
  · next k hk =>
    rw [whole?, ht] at hk
    obtain ⟨z, hz, hzk⟩ := Option.map_eq_some_iff.mp hk
    obtain ⟨m, hm, hcast⟩ := Option.bind_eq_some_iff.mp hz
    obtain rfl := Option.some.inj hcast
    have habs : k.natAbs = m := by
      rw [← hzk]
      split <;> omega
    split at hn
    · rw [spelledValue_of_natural? hm]
      exact Nat.cast_lt.mpr (by omega)
    · contradiction
  · contradiction

namespace PointedDigits

variable (h : PointedDigits s w f)
include h

theorem point_notMem : '.' ∉ w := fun hc =>
  Value.ne_of_isAsciiDigit (h.whole _ hc) (by decide) rfl

theorem erase_point : s.erase '.' = w ++ f := by
  rcases h.spelled with rfl | ⟨rfl, rfl⟩
  · rw [List.erase_append_right _ h.point_notMem, List.erase_cons_head]
  · rw [List.erase_of_not_mem h.point_notMem, List.append_nil]

theorem places_eq : places s = f.length := by
  have hw : ∀ c ∈ w, (c != '.') = true := fun c hc =>
    bne_iff_ne.mpr (Value.ne_of_isAsciiDigit (h.whole c hc) (by decide))
  rcases h.spelled with rfl | ⟨rfl, rfl⟩
  · rw [places, List.dropWhile_append_of_pos hw]
    rfl
  · rw [places, List.dropWhile_eq_nil_iff.mpr hw]
    rfl

/-- Every digit is read, and each one behind the point is a place. -/
theorem mantissa?_eq : mantissa? s = some (⟨digitsValue (w ++ f), -(f.length : Int)⟩, []) := by
  have hne : (w.isEmpty && f.isEmpty) = false := by
    have happend := h.ne_nil
    rw [Bool.and_eq_false_iff, List.isEmpty_eq_false_iff, List.isEmpty_eq_false_iff]
    by_cases hw : w = []
    · rw [hw, List.nil_append] at happend
      exact .inr happend
    · exact .inl hw
  have hf : f.takeWhile isAsciiDigit = f := List.takeWhile_eq_self_iff.mpr h.fraction
  have hrest : f.dropWhile isAsciiDigit = [] := List.dropWhile_eq_nil_iff.mpr h.fraction
  rcases h.spelled with rfl | ⟨rfl, rfl⟩
  · have htake : (w ++ '.' :: f).takeWhile isAsciiDigit = w := by
      rw [List.takeWhile_append_of_pos h.whole]
      exact List.append_nil w
    have hdrop : (w ++ '.' :: f).dropWhile isAsciiDigit = '.' :: f :=
      List.dropWhile_append_of_pos h.whole
    simp only [mantissa?, htake, hdrop, hf, hrest, hne, Bool.false_eq_true, if_false]
  · have htake : s.takeWhile isAsciiDigit = s := List.takeWhile_eq_self_iff.mpr h.whole
    have hdrop : s.dropWhile isAsciiDigit = [] := List.dropWhile_eq_nil_iff.mpr h.whole
    rw [List.isEmpty_nil, Bool.and_true] at hne
    simp only [mantissa?, htake, hdrop, hne, Bool.false_eq_true, if_false, List.append_nil]
    rfl

theorem exists_head : ∃ c t, s = c :: t ∧ (isAsciiDigit c = true ∨ c = '.') := by
  rcases h.spelled with rfl | ⟨rfl, rfl⟩
  · cases w with
    | nil => exact ⟨'.', f, rfl, .inr rfl⟩
    | cons c w => exact ⟨c, _, rfl, .inl (h.whole c List.mem_cons_self)⟩
  · have hne := h.ne_nil
    rw [List.append_nil] at hne
    obtain ⟨c, t, rfl⟩ := List.exists_cons_of_ne_nil hne
    exact ⟨c, t, rfl, .inl (h.whole c List.mem_cons_self)⟩

theorem magnitude?_eq :
    magnitude? s = some (nearest ⟨digitsValue (w ++ f), -(f.length : Int)⟩) := by
  obtain ⟨c, t, hs, hc⟩ := h.exists_head
  have hlower : asciiLower c = c ∧ c ≠ 'i' ∧ c ≠ 'n' := by
    rcases hc with hdigit | rfl
    · exact ⟨asciiLower_of_isAsciiDigit hdigit, Value.ne_of_isAsciiDigit hdigit (by decide),
        Value.ne_of_isAsciiDigit hdigit (by decide)⟩
    · decide
  have hname (d : Char) (ds : List Char) (hd : c ≠ asciiLower d) :
      eqIgnoringCase s (d :: ds) = false := by
    rw [hs, eqIgnoringCase, List.map_cons, List.map_cons, hlower.1]
    exact beq_false_of_ne fun heq => hd (List.cons.inj heq).1
  have hinf : eqIgnoringCase s "inf".toList = false := hname 'i' _ hlower.2.1
  have hinfinity : eqIgnoringCase s "infinity".toList = false := hname 'i' _ hlower.2.1
  have hnan : eqIgnoringCase s "nan".toList = false := hname 'n' _ hlower.2.2
  simp only [magnitude?, hinf, hinfinity, hnan, Bool.or_self, Bool.false_eq_true, if_false,
    h.mantissa?_eq, exponent?, Option.bind_eq_bind, Option.bind_some, Int.add_zero]

/-- Such a text has no sign of its own. -/
theorem splitSign_eq : splitSign s = (false, s) := by
  obtain ⟨c, t, rfl, hc⟩ := h.exists_head
  have hsign : c ≠ '-' ∧ c ≠ '+' := by
    rcases hc with hdigit | rfl
    · exact ⟨Value.ne_of_isAsciiDigit hdigit (by decide),
        Value.ne_of_isAsciiDigit hdigit (by decide)⟩
    · decide
  rw [splitSign]
  · rintro rest heq
    exact hsign.1 (List.cons.inj heq).1
  · rintro rest heq
    exact hsign.2 (List.cons.inj heq).1

theorem spelledValue_eq : spelledValue s = digitsValue (w ++ f) / 10 ^ f.length := by
  rw [spelledValue, h.erase_point, h.places_eq]

theorem isFinite_nearest_iff :
    isFinite (nearest ⟨digitsValue (w ++ f), -(f.length : Int)⟩) = true ↔
      spelledValue s < overflowBound := by
  have hpower : (0 : ℚ) < 10 ^ f.length := pow_pos (by norm_num) _
  rw [isFinite_nearest, h.spelledValue_eq, div_lt_iff₀ hpower]
  generalize overflowBound = b
  norm_cast

/-- With a sign or without, such a text names a float, which is finite below the bound. -/
theorem exists_float? {t : List Char} {negative : Bool} (ht : splitSign t = (negative, s)) :
    ∃ x, float? t = some x ∧ (isFinite x = true ↔ spelledValue s < overflowBound) := by
  rw [float?, ht]
  dsimp only
  rw [h.magnitude?_eq, Option.map_some]
  refine ⟨_, rfl, ?_⟩
  cases negative with
  | false => exact h.isFinite_nearest_iff
  | true =>
    rw [if_pos rfl, isFinite_neg]
    exact h.isFinite_nearest_iff

end PointedDigits

end Stencil.Decimal

namespace Stencil.Library.Conversion

open Decimal

variable {t : String} {v : Value}

theorem exists_pointedDigits_of_isNumeric (h : isNumeric (.string t) = true) :
    ∃ negative s w f, splitSign (Text.trim t.toList) = (negative, s) ∧ PointedDigits s w f := by
  rw [isNumeric] at h
  split at h
  · next rest htrim =>
    obtain ⟨w, f, hdigits⟩ := exists_pointedDigits h
    exact ⟨true, rest, w, f, by rw [htrim]; rfl, hdigits⟩
  · next htrim =>
    obtain ⟨w, f, hdigits⟩ := exists_pointedDigits h
    exact ⟨false, _, w, f, hdigits.splitSign_eq, hdigits⟩

/-- Whether a value is a text whose number is rounded to an infinite float. -/
def Overflows : Value → Prop
  | .string t => (overflowBound : ℚ) ≤ spelledValue (splitSign (Text.trim t.toList)).2
  | _ => False

/-- Without an exact integer it is the float that decides. -/
theorem int_of_float? {x : Float} (hword : word? (Text.trim t.toList) = none)
    (hx : float? (Text.trim t.toList) = some x) :
    int [.string t] =
      if isFinite x then .ok (.int (saturate x))
      else complain (.notConvertible .string "int") := by
  have harity : checkArity (.exactly 1) [Value.string t] = .ok () := rfl
  have harg : arg [Value.string t] 0 = .string t := rfl
  rw [int, harity]
  simp only [harg, hword, numeric?, hx, bind, Except.bind]
  rfl

/-- A text of digits, or a finite number, names a float. -/
theorem exists_numeric? (h : isNumeric v = true) : ∃ x, numeric? v = some x := by
  cases v with
  | number n => exact ⟨n.toFloat, rfl⟩
  | string t =>
    obtain ⟨negative, s, w, f, hsign, hdigits⟩ := exists_pointedDigits_of_isNumeric h
    obtain ⟨x, hx, -⟩ := hdigits.exists_float? hsign
    exact ⟨x, hx⟩
  | _ => contradiction

theorem float_of_numeric? {x : Float} (hx : numeric? v = some x) :
    float [v] = .ok (.float x) := by
  have harity : checkArity (.exactly 1) [v] = .ok () := rfl
  have harg : arg [v] 0 = v := rfl
  rw [float, harity]
  simp only [harg, hx, bind, Except.bind]
  rfl

theorem exists_int_iff (h : isNumeric v = true) :
    (∃ n : Int64, int [v] = .ok (.int n)) ↔ ¬ Overflows v := by
  cases v with
  | number n =>
    refine iff_of_true ⟨saturate n.toFloat, ?_⟩ id
    show (if isFinite n.toFloat then Except.ok (Value.int (saturate n.toFloat)) else _) = _
    exact if_pos h
  | string t =>
    obtain ⟨negative, s, w, f, hsign, hdigits⟩ := exists_pointedDigits_of_isNumeric h
    obtain ⟨x, hx, hfinite⟩ := hdigits.exists_float? hsign
    rw [Overflows, hsign, not_le]
    cases hword : word? (Text.trim t.toList) with
    | some n => exact iff_of_true ⟨n, int_of_word? hword⟩ (spelledValue_lt_of_word? hsign hword)
    | none =>
      rw [int_of_float? hword hx, ← hfinite]
      by_cases hlimit : isFinite x = true
      · exact iff_of_true ⟨_, if_pos hlimit⟩ hlimit
      · refine iff_of_false ?_ hlimit
        rintro ⟨n, hn⟩
        rw [if_neg hlimit] at hn
        contradiction
  | _ => contradiction

/-- What counts as numeric names a float, for the conversion as for every numeric argument. It names
an integer as well unless it is a text whose number is rounded to an infinite float. -/
theorem isNumeric_accepted (v : Value) (h : isNumeric v = true) :
    (∃ x, float [v] = .ok (.float x)) ∧
      (∀ args i, arg args i = v → ∃ x, numberArg args i = .ok x) ∧
      ((∃ n : Int64, int [v] = .ok (.int n)) ↔ ¬ Overflows v) := by
  obtain ⟨x, hx⟩ := exists_numeric? h
  exact ⟨⟨x, float_of_numeric? hx⟩, fun args i hv => ⟨x, by rw [numberArg, hv, hx]⟩,
    exists_int_iff h⟩

/-- A text with many digits is an integer, the least one, as it stays below the bound. -/
theorem isNumeric_accepted_below :
    let v := Value.string (String.ofList ('-' :: '1' :: List.replicate 308 '0'))
    isNumeric v = true ∧ ¬ Overflows v ∧ (∃ x, float [v] = .ok (.float x)) ∧
      (∀ args i, arg args i = v → ∃ x, numberArg args i = .ok x) ∧
      ((∃ n : Int64, int [v] = .ok (.int n)) ↔ ¬ Overflows v) := by
  intro v
  have hnumeric : isNumeric v = true := by
    rw [isNumeric, String.toList_ofList]
    decide +kernel
  refine ⟨hnumeric, ?_, isNumeric_accepted v hnumeric⟩
  rw [Overflows, String.toList_ofList]
  decide +kernel

/-- A text with one digit more is no integer, though it is numeric. -/
theorem isNumeric_not_accepted :
    ¬ ∀ v, isNumeric v = true →
      (∃ x, float [v] = .ok x) ∧ (∃ x, int [v] = .ok x) ∧
        ∀ args i, arg args i = v → ∃ x, numberArg args i = .ok x := by
  intro h
  have hnumeric : isNumeric (.string (String.ofList ('1' :: List.replicate 309 '0'))) = true := by
    rw [isNumeric, String.toList_ofList]
    decide +kernel
  have hword : word? (Text.trim (String.ofList ('1' :: List.replicate 309 '0')).toList) = none := by
    rw [String.toList_ofList]
    decide +kernel
  have hinfinite : (float? (Text.trim (String.ofList ('1' :: List.replicate 309 '0')).toList)).map
      isFinite = some false := by
    rw [String.toList_ofList]
    decide +kernel
  obtain ⟨y, hy, hfinite⟩ := Option.map_eq_some_iff.mp hinfinite
  obtain ⟨-, ⟨x, hx⟩, -⟩ := h _ hnumeric
  rw [int_of_float? hword hy, hfinite, if_neg Bool.false_ne_true] at hx
  cases hx

end Stencil.Library.Conversion
