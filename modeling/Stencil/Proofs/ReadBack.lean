import Stencil.Value.Reader
import Stencil.Proofs.Positions
import Stencil.Proofs.WrittenData

/-!
Strings and integers are read back from their written forms. A string is closed by its quote; an
integer is closed by nothing of its own, so it is read back where what stands behind it does not go
on with it.
-/
namespace Stencil.Value

open Decimal Text

/-! ### Strings -/

section Strings

variable {c : Char}

theorem hexValue?_hexDigit : ∀ n < 16, hexValue? (hexDigit n) = some n := by decide

theorem readEscape_control (h : c.toNat < 0x20) (rest : List Char) :
    readEscape ('u' :: '0' :: '0' :: hexDigit (c.toNat / 16) :: hexDigit (c.toNat % 16) :: rest) =
      .ok (c, rest) := by
  have hzero : hexValue? '0' = some 0 := by decide
  have hhigh : hexValue? (hexDigit (c.toNat / 16)) = some (c.toNat / 16) :=
    hexValue?_hexDigit _ (by omega)
  have hlow : hexValue? (hexDigit (c.toNat % 16)) = some (c.toNat % 16) :=
    hexValue?_hexDigit _ (by omega)
  have hvalue : ((0 * 16 + 0) * 16 + c.toNat / 16) * 16 + c.toNat % 16 = c.toNat := by omega
  have hnotlow : isLowSurrogate c.toNat = false := by
    simp only [isLowSurrogate, Bool.and_eq_false_iff, decide_eq_false_iff_not]
    omega
  have hnothigh : isHighSurrogate c.toNat = false := by
    simp only [isHighSurrogate, Bool.and_eq_false_iff, decide_eq_false_iff_not]
    omega
  show readUnicode _ = _
  simp only [readUnicode, readHex, hzero, hhigh, hlow, hvalue, bind, Except.bind, hnotlow, hnothigh,
    Bool.false_eq_true, if_false, Char.ofNat_toNat]

theorem readString_escape {s rest : List Char} (done : List Char)
    (h : readEscape s = .ok (c, rest)) :
    readString done ('\\' :: s) = readString (c :: done) rest := by
  rw [readString, if_neg (by decide), if_pos (by decide)]
  split
  · next heq =>
    obtain ⟨rfl, rfl⟩ := Prod.mk.inj (Except.ok.inj (heq.symm.trans h))
    rfl
  · next heq =>
    rw [heq] at h
    contradiction

/-- The written form of one character is read as that character. -/
theorem readString_escapeChar (done : List Char) (c : Char) (s : List Char) :
    readString done (escapeChar c ++ s) = readString (c :: done) s := by
  unfold escapeChar
  split
  case h_8 hquote hslash _ _ _ _ _ =>
    by_cases hcontrol : c.toNat < 0x20
    · rw [if_pos hcontrol]
      exact readString_escape done (readEscape_control hcontrol s)
    · have hquote : (c == '"') = false := beq_eq_false_iff_ne.mpr hquote
      have hslash : (c == '\\') = false := beq_eq_false_iff_ne.mpr hslash
      rw [if_neg hcontrol]
      show readString done (c :: s) = _
      rw [readString, hquote, hslash, if_neg Bool.false_ne_true, if_neg Bool.false_ne_true,
        if_neg hcontrol]
  all_goals exact readString_escape done rfl

theorem readString_escaped (done cs rest : List Char) :
    readString done (cs.flatMap escapeChar ++ '"' :: rest) = .ok (done.reverse ++ cs, rest) := by
  induction cs generalizing done with
  | nil =>
    rw [List.flatMap_nil, List.nil_append, readString, if_pos (by decide), List.append_nil]
  | cons c cs ih =>
    rw [List.flatMap_cons, List.append_assoc, readString_escapeChar, ih, List.reverse_cons,
      List.append_assoc]
    rfl

end Strings

/-! ### Integers -/

section Integers

variable {s rest : List Char} {n : Nat}

/-- Nothing that could go on with a number. -/
def Ended (rest : List Char) : Prop :=
  ∀ c ∈ rest.head?, isAsciiDigit c = false ∧ c ≠ '.' ∧ c ≠ 'e' ∧ c ≠ 'E'

theorem startsWithDigit_of_ended (h : Ended rest) : startsWithDigit rest = false := by
  cases rest with
  | nil => rfl
  | cons c rest => exact (h c rfl).1

theorem readNumberTail_of_ended (negative : Bool) (n : Nat) (h : Ended rest) :
    readNumberTail negative n rest = .ok (integer negative n, rest) := by
  unfold readNumberTail
  split
  · exact absurd rfl (h '.' rfl).2.1
  · exact absurd rfl (h 'e' rfl).2.2.1
  · exact absurd rfl (h 'E' rfl).2.2.2
  · rfl

theorem le_foldl_digits (n : Nat) (s : List Char) :
    n ≤ s.foldl (fun n c => 10 * n + digitValue c) n := by
  induction s generalizing n with
  | nil => exact Nat.le_refl n
  | cons c s ih =>
    have := ih (10 * n + digitValue c)
    rw [List.foldl_cons]
    omega

/-- All digits are taken where their number is below the limit. -/
theorem takeDigits_append (n taken : Nat) (hs : s.all isAsciiDigit = true) (h : Ended rest)
    (hlimit : s.foldl (fun n c => 10 * n + digitValue c) n < significandLimit) :
    takeDigits n taken (s ++ rest) =
      (s.foldl (fun n c => 10 * n + digitValue c) n, taken + s.length, rest) := by
  induction s generalizing n taken with
  | nil =>
    cases rest with
    | nil => rfl
    | cons c rest =>
      rw [List.nil_append, takeDigits, (h c rfl).1, Bool.false_and, if_neg Bool.false_ne_true]
      rfl
  | cons c s ih =>
    obtain ⟨hc, hs⟩ : isAsciiDigit c = true ∧ s.all isAsciiDigit = true := by simpa using hs
    rw [List.foldl_cons] at hlimit
    have hstep : 10 * n + digitValue c < significandLimit :=
      Nat.lt_of_le_of_lt (le_foldl_digits _ s) hlimit
    rw [List.cons_append, takeDigits, hc, decide_eq_true hstep, Bool.and_self, if_pos rfl,
      ih _ _ hs hlimit, List.foldl_cons, List.length_cons]
    congr 2
    omega

theorem digitsValue_digitChars_eq (n : Nat) : digitsValue (digitChars n) = n := by
  have hread : Nat.ofDigitChars 10 (Nat.toDigits 10 n) 0 = n :=
    Nat.ofDigitChars_toDigits (by decide) (by decide)
  rwa [Nat.ofDigitChars_eq_foldl] at hread

theorem isPosition_digitChars (n : Nat) : isPosition (digitChars n) = true := by
  have hne : (digitChars n).isEmpty = false := List.isEmpty_eq_false_iff.mpr Nat.toDigits_ne_nil
  rw [isPosition, hne, Bool.not_false, Bool.true_and, List.all_eq_true]
  intro c hc
  have hdigit : c.isDigit = true := Nat.isDigit_of_mem_toDigits (by decide) (by decide) hc
  rw [Char.isDigit, Bool.and_eq_true, decide_eq_true_eq, decide_eq_true_eq] at hdigit
  exact isAsciiDigit_iff.mpr hdigit

theorem shortest_digitChars (n : Nat) : Shortest (digitChars n) := by
  obtain ⟨s, hs, hshort, hvalue⟩ := exists_shortest (isPosition_digitChars n)
  rw [digitsValue_digitChars_eq] at hvalue
  rwa [← hvalue, digitChars_digitsValue hs hshort]

/-- A natural number of 64 bits is read back from its digits. -/
theorem readNumber_digitChars (negative : Bool) (hn : n < significandLimit) (h : Ended rest) :
    readNumber negative (digitChars n ++ rest) = .ok (integer negative n, rest) := by
  by_cases hzero : n = 0
  · subst hzero
    have hdigits : digitChars 0 = ['0'] := by decide
    rw [hdigits]
    show (if startsWithDigit rest then _ else _) = _
    rw [startsWithDigit_of_ended h, if_neg Bool.false_ne_true]
    exact readNumberTail_of_ended negative 0 h
  · obtain ⟨c, s, hdigits, hc, hs⟩ := exists_cons_of_isPosition (isPosition_digitChars n)
    have hvalue := digitsValue_digitChars_eq n
    rw [hdigits, digitsValue, List.foldl_cons, Nat.mul_zero, Nat.zero_add] at hvalue
    have hfirst : c ≠ '0' := by
      rintro rfl
      rcases shortest_digitChars n with hone | hhead
      · apply hzero
        rw [← digitsValue_digitChars_eq n, hone]
        rfl
      · exact hhead (by rw [hdigits]; rfl)
    have htake := takeDigits_append (digitValue c) 0 hs h (by rwa [hvalue])
    rw [hvalue] at htake
    rw [hdigits, List.cons_append]
    unfold readNumber
    split
    · next heq => exact absurd heq (List.cons_ne_nil _ _)
    · next heq => exact absurd (List.cons.inj heq).1 hfirst
    · next heq =>
      obtain ⟨rfl, rfl⟩ := List.cons.inj heq
      rw [hc, Bool.not_true, if_neg Bool.false_ne_true, htake]
      show (if startsWithDigit rest then _ else _) = _
      rw [startsWithDigit_of_ended h, if_neg Bool.false_ne_true]
      exact readNumberTail_of_ended negative n h

end Integers

/-! ### Values -/

section Values

/-- The reader takes this value from the front of any text that does not go on with it. -/
def Reads {α : Type} (reader : Reader α) (s : List Char) (a : α) : Prop :=
  ∀ rest, Ended rest → reader (s ++ rest) = .ok (a, rest)

variable {style : Style} {depth bound n : Nat} {c : Char} {s : List Char}

theorem skipBlanks_cons (h : isFormatBlank c = false) : skipBlanks (c :: s) = c :: s := by
  rw [skipBlanks, List.dropWhile_cons_of_neg]
  rw [h]
  exact Bool.false_ne_true

theorem skipBlanks_spacing (style : Style) (depth : Nat) (s : List Char) :
    skipBlanks (spacing style depth ++ s) = skipBlanks s := by
  cases style with
  | compact => rfl
  | indented =>
    rw [spacing, Style.lineBreak, String.toList_ofList, skipBlanks,
      List.dropWhile_append_of_pos]
    · rfl
    · intro c hc
      rcases List.mem_cons.mp hc with rfl | hc
      · rfl
      · rw [List.eq_of_mem_replicate hc]
        rfl

theorem ended_cons (h : c ∈ [',', ']', '\x7d', '\n']) (s : List Char) : Ended (c :: s) := by
  intro d hd
  obtain rfl := Option.some.inj hd
  simp only [List.mem_cons, List.not_mem_nil, or_false] at h
  rcases h with rfl | rfl | rfl | rfl <;> decide

theorem ended_spacing (h : c ∈ [',', ']', '\x7d', '\n']) (s : List Char) :
    Ended (spacing style depth ++ c :: s) := by
  cases style with
  | compact => exact ended_cons h s
  | indented =>
    rw [spacing, Style.lineBreak, String.toList_ofList]
    exact ended_cons (by decide) _

theorem readValue_blank (s : List Char) : readValue bound n (' ' :: s) = readValue bound n s := by
  have hskip : skipBlanks (' ' :: s) = skipBlanks s := rfl
  rw [readValue, readValue, hskip]

theorem ne_of_isAsciiDigit (hc : isAsciiDigit c = true) {d : Char}
    (hd : isAsciiDigit d = false) : c ≠ d := by
  rintro rfl
  rw [hc] at hd
  contradiction

theorem isFormatBlank_of_isAsciiDigit (hc : isAsciiDigit c = true) : isFormatBlank c = false := by
  have hne (d : Char) (hd : isAsciiDigit d = false) : (c == d) = false :=
    beq_eq_false_iff_ne.mpr (ne_of_isAsciiDigit hc hd)
  rw [isFormatBlank, hne ' ' (by decide), hne '\n' (by decide), hne '\t' (by decide),
    hne '\r' (by decide)]
  rfl

theorem readValue_digit (hc : isAsciiDigit c = true) :
    readValue bound n (c :: s) = (readNumber false (c :: s)).map fun p => (.number p.1, p.2) := by
  rw [readValue, skipBlanks_cons (isFormatBlank_of_isAsciiDigit hc)]
  split
  case h_1 heq => nomatch heq
  case h_9 heq =>
    obtain ⟨rfl, rfl⟩ := List.cons.inj heq
    rw [if_pos hc]
    cases readNumber false (_ :: _) <;> rfl
  all_goals next heq => exact absurd (List.cons.inj heq).1 (ne_of_isAsciiDigit hc (by decide))

theorem ofInt_toInt (k : Int64) : Number.ofInt k.toInt = .int k := by
  have hrange : Int64.minValue.toInt ≤ k.toInt ∧ k.toInt ≤ Int64.maxValue.toInt :=
    ⟨k.minValue_le_toInt, k.toInt_le⟩
  rw [Number.ofInt, Number.ofInt?, if_pos hrange, Int64.ofInt_toInt]
  rfl

/-- The least integer is read as well: its digits are a number of 64 bits without the sign. -/
theorem reads_int (k : Int64) : Reads (readValue bound n) (wholeText k.toInt).toList (.int k) := by
  intro rest hrest
  have hlow := k.le_toInt
  have hhigh := k.toInt_lt
  have hk := ofInt_toInt k
  have hlimit : significandLimit = 2 ^ 64 := rfl
  cases hint : k.toInt with
  | ofNat m =>
    rw [hint] at hlow hhigh hk
    have hm : m < significandLimit := by
      have : Int.ofNat m = (m : Int) := rfl
      omega
    have hnumber : integer false m = .int k := hk
    obtain ⟨c, s, hdigits, hc, -⟩ := exists_cons_of_isPosition (isPosition_digitChars m)
    have hread := readNumber_digitChars false hm hrest
    rw [hdigits] at hread
    rw [wholeText, String.toList_ofList, hdigits, List.cons_append, readValue_digit hc,
      ← List.cons_append, hread, hnumber]
    rfl
  | negSucc m =>
    rw [hint] at hlow hhigh hk
    have hm : m + 1 < significandLimit := by omega
    have hnumber : integer true (m + 1) = .int k := by
      rw [integer, if_pos rfl, if_neg (Nat.succ_ne_zero m)]
      exact hk
    rw [wholeText, String.toList_ofList, List.cons_append, readValue]
    show (readNumber true (digitChars (m + 1) ++ rest)).bind _ = _
    rw [readNumber_digitChars true hm hrest, hnumber]
    rfl

theorem reads_string (text : String) :
    Reads (readValue bound n) (quoted text).toList (.string text) := by
  intro rest _
  rw [toList_quoted, List.cons_append, List.append_assoc, readValue]
  show (readString [] (text.toList.flatMap escapeChar ++ '"' :: rest)).bind _ = _
  rw [readString_escaped]
  show Except.ok (ofChars text.toList, rest) = _
  rw [ofChars, String.ofList_toList]

end Values

end Stencil.Value
