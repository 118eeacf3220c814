import Stencil.Library.Arithmetic
import Stencil.Library.Conversion
import Stencil.Proofs.FilledDigits
import Stencil.Proofs.NearestNumbers
import Stencil.Proofs.Trimming

/-!
Converting and rounding integers. A text that is an integer is taken exactly, and so is a magnitude;
an integer itself goes through a float on the way to an integer and through a rounding, and comes
back as what the float keeps of it.
-/
namespace Stencil.Decimal

open Text

variable {c : Char} {s : List Char}

theorem isBlank_of_isAsciiDigit (h : isAsciiDigit c = true) : isBlank c = false := by
  obtain ⟨hlow, hhigh⟩ := isAsciiDigit_iff.mp h
  cases hblank : isBlank c with
  | false => rfl
  | true =>
    simp only [isBlank, Bool.or_eq_true, Bool.and_eq_true, decide_eq_true_eq, beq_iff_eq] at hblank
    omega

theorem isBlank_of_mem_digitChars {n : Nat} (h : c ∈ digitChars n) : isBlank c = false :=
  isBlank_of_isAsciiDigit (isAsciiDigit_of_mem_digitChars h)

theorem isBlank_of_mem_wholeText {k : Int} (h : c ∈ (wholeText k).toList) : isBlank c = false := by
  cases k with
  | ofNat n =>
    rw [wholeText, String.toList_ofList] at h
    exact isBlank_of_mem_digitChars h
  | negSucc n =>
    rw [wholeText, String.toList_ofList, List.mem_cons] at h
    rcases h with rfl | h
    · decide
    · exact isBlank_of_mem_digitChars h

theorem whole?_wholeText (k : Int) : whole? (wholeText k).toList = some k := by
  cases k with
  | ofNat n =>
    rw [wholeText, String.toList_ofList, whole?_of_isPosition (Value.isPosition_digitChars n),
      Value.digitsValue_digitChars_eq]
    rfl
  | negSucc n =>
    rw [wholeText, String.toList_ofList, whole?_dash_of_isPosition (Value.isPosition_digitChars _),
      Value.digitsValue_digitChars_eq]
    rfl

/-- The text of an integer is read as that integer. -/
theorem word?_wholeText (n : Int64) : word? (wholeText n.toInt).toList = some n := by
  rw [word?, whole?_wholeText]
  exact (if_pos (Number.fits_toInt n)).trans (congrArg some n.ofInt_toInt)

end Stencil.Decimal

namespace Stencil.Library

open Number (Fits)
open Decimal

variable {n : Int64}

theorem natAbs_toInt_le (n : Int64) : n.toInt.natAbs ≤ 2 ^ 63 := by
  have hlow : -2 ^ 63 ≤ n.toInt := n.minValue_le_toInt
  have hhigh : n.toInt ≤ 2 ^ 63 - 1 := n.toInt_le
  omega

theorem isNearest_ofInt_toInt (n : Int64) : IsNearest (Float.ofInt n.toInt) n.toInt := by
  have hle := natAbs_toInt_le n
  exact isNearest_ofInt (by omega)

/-- What a rounding to a whole number makes of an integer. -/
def roundedInteger (n : Int64) : Number :=
  if n.toInt.natAbs < 9000000000000000 then .int n else .float (Float.ofInt n.toInt)

theorem ofFloat_roundWith {f : Decimal.Dyadic → Int}
    (hf : ∀ d l, Decimal.Dyadic.Spells d l → f d = l) (n : Int64) :
    Number.ofFloat (roundWith f (Float.ofInt n.toInt)) = roundedInteger n := by
  have hbound : (nearestInteger n.toInt).natAbs ≤ 2 ^ 63 := by
    rw [natAbs_nearestInteger]
    exact nearestWhole_le_two_pow (natAbs_toInt_le n)
  have hrounded := (isNearest_ofInt_toInt n).roundWith hf (by omega)
  by_cases hn : n.toInt.natAbs < 9000000000000000
  · rw [nearestInteger_of_natAbs_lt (by omega)] at hrounded
    obtain ⟨k, hk, hint⟩ := (Number.ofFloat_eq hrounded).1 hn
    rw [hint, roundedInteger, if_pos hn, Int64.toInt_inj.mp hk]
  · have hzero : nearestInteger n.toInt ≠ 0 := by
      intro hzero
      rw [nearestInteger_eq_zero_iff.mp hzero] at hn
      exact hn (by decide)
    have hsame : roundWith f (Float.ofInt n.toInt) = Float.ofInt n.toInt :=
      hrounded.eq_of_ne_zero (isNearest_ofInt_toInt n) (nearestInteger_nearestInteger _) hzero
    rw [hsame, (Number.ofFloat_eq (isNearest_ofInt_toInt n)).2 (by omega), roundedInteger,
      if_neg hn]

/-- An integer is cut down to 53 binary digits, and to the greatest integer. -/
theorem int_integer (n : Int64) :
    ∃ k : Int64, k.toInt = min (nearestInteger n.toInt) Int64.maxValue.toInt ∧
      Conversion.int [.int n] = .ok (.int k) := by
  have hx := isNearest_ofInt_toInt n
  have hmin : nearestInteger Int64.minValue.toInt = Int64.minValue.toInt := by decide
  have hlow := nearestInteger_mono n.minValue_le_toInt
  have hle : Int64.minValue.toInt ≤ Int64.maxValue.toInt := by decide
  refine ⟨saturate (Float.ofInt n.toInt), ?_, ?_⟩
  · rw [hx.saturate]
    omega
  · show (if isFinite (Float.ofInt n.toInt) then
      Except.ok (Value.int (saturate (Float.ofInt n.toInt))) else _) = _
    rw [if_pos hx.isFinite]

/-- An integer survives if none of its digits is lost, and the greatest one by being cut off. -/
theorem int_integer_eq_self_iff :
    Conversion.int [.int n] = .ok (.int n) ↔
      (∃ m k : Nat, m < 2 ^ 53 ∧ n.toInt.natAbs = m * 2 ^ k) ∨ n = Int64.maxValue := by
  obtain ⟨k, hk, hint⟩ := int_integer n
  have hle := n.toInt_le
  have hself : Conversion.int [.int n] = .ok (.int n) ↔ k.toInt = n.toInt := by
    rw [hint, Int64.toInt_inj]
    constructor
    · intro h
      cases h
      rfl
    · rintro rfl
      rfl
  have hmax : nearestInteger Int64.maxValue.toInt = 2 ^ 63 := by decide
  have hgreatest : Int64.maxValue.toInt = 2 ^ 63 - 1 := rfl
  rw [hself, hk, ← nearestWhole_eq_self_iff, ← nearestInteger_eq_self_iff, ← Int64.toInt_inj]
  constructor
  · omega
  · rintro (h | h)
    · omega
    · rw [h]
      omega

theorem int_of_word? {t : String} (h : word? (Text.trim t.toList) = some n) :
    Conversion.int [.string t] = .ok (.int n) := by
  have harity : checkArity (.exactly 1) [Value.string t] = .ok () := rfl
  have harg : arg [Value.string t] 0 = .string t := rfl
  rw [Conversion.int, harity]
  simp only [harg, h, bind, Except.bind]
  rfl

theorem int_text (n : Int64) : Conversion.int [.string (wholeText n.toInt)] = .ok (.int n) := by
  have htrim : Text.trim (wholeText n.toInt).toList = (wholeText n.toInt).toList :=
    Text.trim_eq_self fun _ hc => isBlank_of_mem_wholeText hc
  exact int_of_word? (by rw [htrim, word?_wholeText])

theorem abs_integer (h : Fits n.toInt.natAbs) :
    ∃ k : Int64, k.toInt = n.toInt.natAbs ∧ Arithmetic.abs [.int n] = .ok (.int k) := by
  obtain ⟨k, hk, hint⟩ := Number.exists_ofInt?_of_fits h
  refine ⟨k, hk, ?_⟩
  show Except.ok (Value.number (Number.ofInt n.toInt.natAbs)) = _
  rw [Number.ofInt, hint]
  rfl

/-- Texts and magnitudes of integers are exact. The conversion of an integer keeps the first 53
binary digits of it, and a rounding makes it a float from nine quadrillion on. -/
theorem integers_converted_and_rounded (n : Int64) :
    (Conversion.int [.int n] = .ok (.int n) ↔
        (∃ m k : Nat, m < 2 ^ 53 ∧ n.toInt.natAbs = m * 2 ^ k) ∨ n = Int64.maxValue) ∧
      (∃ k : Int64, k.toInt = min (nearestInteger n.toInt) Int64.maxValue.toInt ∧
        Conversion.int [.int n] = .ok (.int k)) ∧
      Arithmetic.floor [.int n] = .ok (.number (roundedInteger n)) ∧
      Arithmetic.ceil [.int n] = .ok (.number (roundedInteger n)) ∧
      Arithmetic.round [.int n] = .ok (.number (roundedInteger n)) ∧
      Conversion.int [.string (wholeText n.toInt)] = .ok (.int n) ∧
      (Fits n.toInt.natAbs →
        ∃ k : Int64, k.toInt = n.toInt.natAbs ∧ Arithmetic.abs [.int n] = .ok (.int k)) := by
  have hrounding {f : Decimal.Dyadic → Int} (hf : ∀ d l, Decimal.Dyadic.Spells d l → f d = l) :
      Except.ok (Value.number (Number.ofFloat (roundWith f (Float.ofInt n.toInt)))) =
        (Except.ok (.number (roundedInteger n)) : Except HelperError Value) := by
    rw [ofFloat_roundWith hf]
  exact ⟨int_integer_eq_self_iff, int_integer n, hrounding fun _ _ => Decimal.Dyadic.Spells.floor,
    hrounding fun _ _ => Decimal.Dyadic.Spells.ceil,
    hrounding fun _ _ => Decimal.Dyadic.Spells.round, int_text n, abs_integer⟩

/-- The least integer whose magnitude fits has that magnitude exactly, but is converted to the
integer below it. -/
theorem integers_converted_and_rounded_least :
    Fits (-9223372036854775807 : Int64).toInt.natAbs ∧
      Arithmetic.abs [.int (-9223372036854775807)] = .ok (.int 9223372036854775807) ∧
      Conversion.int [.int (-9223372036854775807)] = .ok (.int Int64.minValue) := by
  have hfits : Fits (-9223372036854775807 : Int64).toInt.natAbs := by decide
  obtain ⟨-, ⟨k, hk, hint⟩, -, -, -, -, habs⟩ :=
    integers_converted_and_rounded (-9223372036854775807)
  obtain ⟨a, ha, habs⟩ := habs hfits
  refine ⟨hfits, ?_, ?_⟩
  · have hvalue : a.toInt = (9223372036854775807 : Int64).toInt := by
      rw [ha]
      decide
    rw [habs, Int64.toInt_inj.mp hvalue]
  · have hvalue : k.toInt = Int64.minValue.toInt := by
      rw [hk]
      decide
    rw [hint, Int64.toInt_inj.mp hvalue]

/-- The first integer that a float does not hold is converted to the one below it. -/
theorem int_integer_ne :
    Conversion.int [.int 9007199254740993] = .ok (.int 9007199254740992) ∧
      Conversion.int [.int 9007199254740993] ≠ .ok (.int 9007199254740993) := by
  have hconverted : Conversion.int [.int 9007199254740993] = .ok (.int 9007199254740992) := by
    obtain ⟨k, hk, hint⟩ := int_integer 9007199254740993
    have hvalue : k.toInt = (9007199254740992 : Int64).toInt := by
      rw [hk]
      decide
    rw [hint, Int64.toInt_inj.mp hvalue]
  refine ⟨hconverted, fun h => ?_⟩
  rw [hconverted] at h
  cases h

end Stencil.Library
