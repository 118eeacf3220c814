import Mathlib.Algebra.Order.Ring.Int
import Stencil.Proofs.ReadBack

/-!
Digits filled up with zeros. Zeros behind digits multiply the number by a power of ten, and zeros in
front change nothing, so a number that is filled up to a width is still read as itself.
-/
namespace Stencil.Decimal

open Text

variable {c : Char} {n width : Nat}

theorem foldl_zeros (n t : Nat) :
    (zeros t).foldl (fun n c => 10 * n + digitValue c) n = n * 10 ^ t := by
  induction t generalizing n with
  | zero => exact (Nat.mul_one n).symm
  | succ t ih =>
    have hzero : digitValue '0' = 0 := rfl
    rw [zeros, List.replicate_succ, List.foldl_cons, hzero, ← zeros, ih, Nat.add_zero,
      Nat.mul_comm 10, Nat.mul_assoc, ← Nat.pow_succ']

theorem foldl_digits (n : Nat) (ds : List Char) :
    ds.foldl (fun n c => 10 * n + digitValue c) n = n * 10 ^ ds.length + digitsValue ds := by
  induction ds generalizing n with
  | nil => exact (Nat.mul_one n).symm
  | cons c ds ih =>
    have hvalue : digitsValue (c :: ds) = (10 * 0 + digitValue c) * 10 ^ ds.length +
        digitsValue ds := ih _
    rw [List.foldl_cons, ih, hvalue, List.length_cons, Nat.pow_succ', Nat.mul_zero, Nat.zero_add,
      Nat.add_mul, Nat.add_assoc, Nat.mul_comm 10, Nat.mul_assoc]

theorem digitsValue_append (ds ds' : List Char) :
    digitsValue (ds ++ ds') = digitsValue ds * 10 ^ ds'.length + digitsValue ds' := by
  rw [digitsValue, List.foldl_append]
  exact foldl_digits _ ds'

theorem isAsciiDigit_of_mem_digitChars (h : c ∈ digitChars n) : isAsciiDigit c = true := by
  have hdigits := Value.isPosition_digitChars n
  rw [isPosition, Bool.and_eq_true] at hdigits
  exact List.all_eq_true.mp hdigits.2 c h

/-- The digits of a number with zeros in front, up to a width. -/
def filled (width n : Nat) : List Char :=
  zeros (width - (digitChars n).length) ++ digitChars n

theorem filled_ne_nil (width n : Nat) : filled width n ≠ [] :=
  List.append_ne_nil_of_right_ne_nil _ Nat.toDigits_ne_nil

theorem isAsciiDigit_of_mem_filled (h : c ∈ filled width n) : isAsciiDigit c = true := by
  rcases List.mem_append.mp h with h | h
  · obtain rfl := List.eq_of_mem_replicate h
    decide
  · exact isAsciiDigit_of_mem_digitChars h

theorem digitsValue_filled (width n : Nat) : digitsValue (filled width n) = n := by
  have hzeros (t : Nat) : digitsValue (zeros t) = 0 := (foldl_zeros 0 t).trans (Nat.zero_mul _)
  rw [filled, digitsValue_append, hzeros, Nat.zero_mul, Nat.zero_add,
    Value.digitsValue_digitChars_eq]

/-- A number with few enough digits has exactly the width. -/
theorem length_filled (hwidth : 0 < width) (h : n < 10 ^ width) :
    (filled width n).length = width := by
  have hdigits : (digitChars n).length ≤ width :=
    (Nat.length_toDigits_le_iff (by decide) hwidth).mpr h
  rw [filled, List.length_append, zeros, List.length_replicate]
  omega

/-- Zeros in front never shorten a number. -/
theorem le_length_filled (width n : Nat) : width ≤ (filled width n).length := by
  rw [filled, List.length_append, zeros, List.length_replicate]
  omega

end Stencil.Decimal
