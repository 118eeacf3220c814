import Stencil.Decimal.Reader

/-!
Positions: runs of decimal digits. The number that a position names is written without the leading
zeros, so a position is the text of its number exactly if it has none.
-/
namespace Stencil.Decimal

open Text

/-- One or more decimal digits. -/
def isPosition (s : List Char) : Bool := !s.isEmpty && s.all isAsciiDigit

/-- Without zeros in front of other digits. -/
def Shortest (s : List Char) : Prop := s = ['0'] ∨ s.head? ≠ some '0'

section Digits

variable {c : Char} {s : List Char}

theorem isAsciiDigit_iff : isAsciiDigit c = true ↔ 48 ≤ c.toNat ∧ c.toNat ≤ 57 := by
  simp only [isAsciiDigit, Bool.and_eq_true, decide_eq_true_eq]
  rfl

theorem digitValue_lt (h : isAsciiDigit c = true) : digitValue c < 10 := by
  obtain ⟨hlow, hhigh⟩ := isAsciiDigit_iff.mp h
  show c.toNat - 48 < 10
  omega

theorem digitChar_digitValue (h : isAsciiDigit c = true) : Nat.digitChar (digitValue c) = c := by
  obtain ⟨hlow, hhigh⟩ := isAsciiDigit_iff.mp h
  apply Char.toNat_inj.mp
  rw [Nat.toNat_digitChar_of_lt_ten (digitValue_lt h)]
  show 48 + (c.toNat - 48) = c.toNat
  omega

theorem digitValue_pos (h : isAsciiDigit c = true) (hc : c ≠ '0') : 0 < digitValue c := by
  obtain ⟨hlow, hhigh⟩ := isAsciiDigit_iff.mp h
  have hne : c.toNat ≠ 48 := fun he => hc (Char.toNat_inj.mp he)
  show 0 < c.toNat - 48
  omega

theorem isPosition_cons : isPosition (c :: s) = true ↔
    isAsciiDigit c = true ∧ s.all isAsciiDigit = true := by
  simp [isPosition]

theorem exists_cons_of_isPosition (h : isPosition s = true) :
    ∃ c rest, s = c :: rest ∧ isAsciiDigit c = true ∧ rest.all isAsciiDigit = true := by
  cases s with
  | nil => cases h
  | cons c rest => exact ⟨c, rest, rfl, isPosition_cons.mp h⟩

/-- Digits behind the digits of a number that is not zero go on with them. -/
theorem digitChars_foldl {n : Nat} (hn : 0 < n) (h : s.all isAsciiDigit = true) :
    digitChars (s.foldl (fun n c => 10 * n + digitValue c) n) = digitChars n ++ s := by
  induction s generalizing n with
  | nil => rw [List.foldl_nil, List.append_nil]
  | cons c s ih =>
    obtain ⟨hc, hs⟩ : isAsciiDigit c = true ∧ s.all isAsciiDigit = true := by simpa using h
    have hstep := Nat.toDigits_append_toDigits (b := 10) (by decide) hn (digitValue_lt hc)
    rw [Nat.toDigits_of_lt_base (digitValue_lt hc), digitChar_digitValue hc] at hstep
    rw [List.foldl_cons, ih (by omega) hs]
    calc
      _ = (Nat.toDigits 10 n ++ [c]) ++ s := by rw [hstep]; rfl
      _ = digitChars n ++ c :: s := by rw [List.append_assoc]; rfl

theorem digitChars_digitsValue (h : isPosition s = true) (hshort : Shortest s) :
    digitChars (digitsValue s) = s := by
  obtain ⟨c, rest, rfl, hc, hrest⟩ := exists_cons_of_isPosition h
  rcases hshort with hzero | hhead
  · rw [hzero]
    rfl
  · have hpos : 0 < digitValue c := digitValue_pos hc fun he => hhead (he ▸ rfl)
    have hfirst : digitChars (digitValue c) = [c] := by
      rw [digitChars, Nat.toDigits_of_lt_base (digitValue_lt hc), digitChar_digitValue hc]
    rw [digitsValue, List.foldl_cons, Nat.mul_zero, Nat.zero_add, digitChars_foldl hpos hrest,
      hfirst]
    rfl

/-- Leading zeros do not change the number. -/
theorem exists_shortest (h : isPosition s = true) :
    ∃ t, isPosition t = true ∧ Shortest t ∧ digitsValue t = digitsValue s := by
  induction s with
  | nil => cases h
  | cons c s ih =>
    by_cases hzero : c = '0'
    · cases s with
      | nil => exact ⟨[c], h, Or.inl (by rw [hzero]), rfl⟩
      | cons d s =>
        have hrest : isPosition (d :: s) = true := by
          obtain ⟨-, hall⟩ := isPosition_cons.mp h
          exact hall
        obtain ⟨t, ht, hshort, hvalue⟩ := ih hrest
        subst hzero
        exact ⟨t, ht, hshort, hvalue⟩
    · exact ⟨c :: s, h, Or.inr fun hhead => hzero (Option.some.inj hhead), rfl⟩

/-- The text of the number that a position names is a position that names the same number. -/
theorem digitsValue_digitChars (h : isPosition s = true) :
    isPosition (digitChars (digitsValue s)) = true ∧
      digitsValue (digitChars (digitsValue s)) = digitsValue s := by
  obtain ⟨t, ht, hshort, hvalue⟩ := exists_shortest h
  rw [← hvalue, digitChars_digitsValue ht hshort]
  exact ⟨ht, rfl⟩

theorem splitSign_of_isPosition (h : isPosition s = true) : splitSign s = (false, s) := by
  obtain ⟨c, rest, rfl, hc, -⟩ := exists_cons_of_isPosition h
  unfold splitSign
  split
  · next heq =>
    obtain rfl := (List.cons.inj heq).1
    exact absurd hc (by decide)
  · next heq =>
    obtain rfl := (List.cons.inj heq).1
    exact absurd hc (by decide)
  · rfl

theorem whole?_of_isPosition (h : isPosition s = true) : whole? s = some (digitsValue s : Int) := by
  have hnatural : natural? s = some (digitsValue s) := if_pos h
  rw [whole?, splitSign_of_isPosition h]
  simp only [hnatural]
  rfl

theorem whole?_dash_of_isPosition (h : isPosition s = true) :
    whole? ('-' :: s) = some (-(digitsValue s : Int)) := by
  have hnatural : natural? s = some (digitsValue s) := if_pos h
  rw [whole?, splitSign]
  simp only [hnatural]
  rfl

/-- The number that a position names, if it fits in 64 bits. -/
theorem word?_of_isPosition (h : isPosition s = true) :
    word? s = if (digitsValue s : Int) ≤ Int64.maxValue.toInt then
      some (Int64.ofInt (digitsValue s)) else none := by
  have hmin : Int64.minValue.toInt ≤ (digitsValue s : Int) := by
    have hneg : Int64.minValue.toInt = -2 ^ 63 := rfl
    omega
  rw [word?, whole?_of_isPosition h]
  simp only [hmin, true_and]

end Digits

end Stencil.Decimal
