import Mathlib.Data.List.TakeWhile
import Stencil.Proofs.Concatenation
import Stencil.Proofs.Constants
import Stencil.Proofs.Places

/-!
Tokens tile the text. What is read as a token is a piece of the text that does not end on account of
what follows it: read alone, the piece is the same token and nothing is left of it. Between the
pieces stand blanks only, so each piece stands where its token is said to stand.
-/
namespace Stencil.Expr

open Text

/-! ### Numbers alone -/

section Number

variable {s t : List Char}

theorem startsWithDigit_append (h : startsWithDigit s = true) (t : List Char) :
    startsWithDigit (s ++ t) = true := by
  cases s with
  | nil => cases h
  | cons c s => exact h

theorem takeWhile_eq_nil_of_startsWithDigit (h : startsWithDigit s = false) :
    s.takeWhile isAsciiDigit = [] := by
  cases s with
  | nil => rfl
  | cons c s => exact List.takeWhile_cons_of_neg (by simpa [startsWithDigit] using h)

/-- Digits stop where other text starts. -/
theorem takeWhile_digits_append (h : ∀ c ∈ s, isAsciiDigit c = true)
    (ht : startsWithDigit t = false) : (s ++ t).takeWhile isAsciiDigit = s := by
  rw [List.takeWhile_append_of_pos h, takeWhile_eq_nil_of_startsWithDigit ht, List.append_nil]

theorem startsWithDigit_takeWhile (h : startsWithDigit s = true) :
    startsWithDigit (s.takeWhile isAsciiDigit) = true := by
  cases s with
  | nil => cases h
  | cons c s =>
    have hc : isAsciiDigit c = true := h
    rw [List.takeWhile_cons_of_pos hc]
    exact hc

/-- A fraction is a point and one or more digits. -/
theorem fractionText_cases (s : List Char) : fractionText s = [] ∨
    ∃ digits, fractionText s = '.' :: digits ∧ startsWithDigit digits = true ∧
      ∀ c ∈ digits, isAsciiDigit c = true := by
  unfold fractionText
  split
  · next rest =>
    split
    · next hrest =>
      exact .inr ⟨_, rfl, startsWithDigit_takeWhile hrest, fun _ => List.mem_takeWhile_imp⟩
    · exact .inl rfl
  · exact .inl rfl

/-- An exponent is a letter, a sign or none, and one or more digits. -/
theorem exponentText_cases (s : List Char) : exponentText s = [] ∨
    ∃ e digits, (e = 'e' ∨ e = 'E') ∧ startsWithDigit digits = true ∧
      (∀ c ∈ digits, isAsciiDigit c = true) ∧
      (exponentText s = e :: digits ∨
        ∃ sign, (sign = '+' ∨ sign = '-') ∧ exponentText s = e :: sign :: digits) := by
  unfold exponentText
  split
  · next e sign rest =>
    split
    · next he =>
      have hletter : e = 'e' ∨ e = 'E' := by simpa using he
      split
      · next hdigit =>
        have hstarts : startsWithDigit (sign :: rest) = true := hdigit
        exact .inr ⟨e, _, hletter, startsWithDigit_takeWhile hstarts,
          fun _ => List.mem_takeWhile_imp, .inl rfl⟩
      · split
        · next hsign =>
          obtain ⟨hsign, hrest⟩ := Bool.and_eq_true_iff.mp hsign
          exact .inr ⟨e, _, hletter, startsWithDigit_takeWhile hrest,
            fun _ => List.mem_takeWhile_imp, .inr ⟨sign, by simpa using hsign, rfl⟩⟩
        · exact .inl rfl
    · exact .inl rfl
  · exact .inl rfl

theorem fractionText_isPrefix (s : List Char) : fractionText s <+: s := by
  unfold fractionText
  split
  · split
    · exact List.cons_prefix_cons.mpr ⟨rfl, List.takeWhile_prefix _⟩
    · exact List.nil_prefix
  · exact List.nil_prefix

theorem exponentText_isPrefix (s : List Char) : exponentText s <+: s := by
  unfold exponentText
  split
  · split
    · split
      · exact List.cons_prefix_cons.mpr ⟨rfl, List.takeWhile_prefix _⟩
      · split
        · exact List.cons_prefix_cons.mpr
            ⟨rfl, List.cons_prefix_cons.mpr ⟨rfl, List.takeWhile_prefix _⟩⟩
        · exact List.nil_prefix
    · exact List.nil_prefix
  · exact List.nil_prefix

theorem startsWithDigit_exponentText (s : List Char) :
    startsWithDigit (exponentText s) = false := by
  rcases exponentText_cases s with h | ⟨e, digits, rfl | rfl, -, -, h | ⟨sign, -, h⟩⟩ <;>
    rw [h] <;> rfl

theorem startsWithDigit_fractionText_append (s t : List Char) :
    startsWithDigit (fractionText s ++ exponentText t) = false := by
  rcases fractionText_cases s with h | ⟨digits, h, -⟩ <;> rw [h]
  · exact startsWithDigit_exponentText t
  · rfl

/-- Without what follows the number, its fraction is the same. -/
theorem fractionText_append (s t : List Char) :
    fractionText (fractionText s ++ exponentText t) = fractionText s := by
  rcases fractionText_cases s with h | ⟨digits, h, hsome, hall⟩
  · rw [h, List.nil_append]
    rcases exponentText_cases t with ht | ⟨e, more, rfl | rfl, -, -, ht | ⟨sign, -, ht⟩⟩ <;>
      rw [ht] <;> rfl
  · rw [h, List.cons_append, fractionText, if_pos (startsWithDigit_append hsome _),
      takeWhile_digits_append hall (startsWithDigit_exponentText t)]

/-- Without what follows the number, its exponent is the same. -/
theorem exponentText_exponentText (s : List Char) :
    exponentText (exponentText s) = exponentText s := by
  rcases exponentText_cases s with h | ⟨e, digits, he, hsome, hall, h | ⟨sign, hsign, h⟩⟩
  · rw [h]
    rfl
  · have hletter : (e == 'e' || e == 'E') = true := by simpa using he
    obtain ⟨d, digits, rfl⟩ : ∃ d ds, digits = d :: ds :=
      List.exists_cons_of_ne_nil fun hnil => by simp [hnil, startsWithDigit] at hsome
    have hd : isAsciiDigit d = true := hsome
    rw [h, exponentText, if_pos hletter, if_pos hd, List.takeWhile_eq_self_iff.mpr hall]
  · have hletter : (e == 'e' || e == 'E') = true := by simpa using he
    have hnodigit : ¬isAsciiDigit sign = true := by rcases hsign with rfl | rfl <;> decide
    have hmark : ((sign == '+' || sign == '-') && startsWithDigit digits) = true := by
      simpa [hsome] using hsign
    rw [h, exponentText, if_pos hletter, if_neg hnodigit, if_pos hmark,
      List.takeWhile_eq_self_iff.mpr hall]

/-- The number that a text spells; a text of digits only may be an integer. -/
def numberToken (onlyDigits : Bool) (text : List Char) : Except SyntaxFault Token :=
  match (if onlyDigits then Decimal.word? text else none) with
  | some n => .ok (.int n)
  | none =>
    match Decimal.float? text with
    | some x => .ok (.float x)
    | none => .error (.invalidNumber text)

/-- A number is read from its three parts. -/
theorem readNumber_eq {whole fraction power rest : List Char}
    (hwhole : (whole ++ (fraction ++ (power ++ rest))).takeWhile isAsciiDigit = whole)
    (hfraction : fractionText (fraction ++ (power ++ rest)) = fraction)
    (hpower : exponentText (power ++ rest) = power) :
    readNumber (whole ++ (fraction ++ (power ++ rest))) =
      (numberToken (fraction.isEmpty && power.isEmpty) (whole ++ fraction ++ power)).map
        fun token => ⟨token, whole ++ fraction ++ power, rest⟩ := by
  have hparts : whole ++ (fraction ++ (power ++ rest)) = whole ++ fraction ++ power ++ rest := by
    simp only [List.append_assoc]
  have hlength : whole.length + fraction.length + power.length =
      (whole ++ fraction ++ power).length := by
    simp only [List.length_append]
  have hsecond : (whole ++ (fraction ++ (power ++ rest))).drop (whole.length + fraction.length) =
      power ++ rest := by
    rw [← List.append_assoc, ← List.length_append, List.drop_left]
  unfold readNumber numberToken
  simp only [hwhole, List.drop_left, hfraction, hsecond, hpower, hlength]
  rw [hparts, List.take_left, List.drop_left]
  cases if (fraction.isEmpty && power.isEmpty) = true then
      Decimal.word? (whole ++ fraction ++ power) else none with
  | some n => rfl
  | none => cases Decimal.float? (whole ++ fraction ++ power) <;> rfl

/-- Every text is three parts of a number, which may be empty, and what follows them. -/
theorem exists_number_parts (s : List Char) : ∃ whole u v rest,
    s = whole ++ (fractionText u ++ (exponentText v ++ rest)) ∧
      s.takeWhile isAsciiDigit = whole ∧
      fractionText (fractionText u ++ (exponentText v ++ rest)) = fractionText u ∧
      exponentText (exponentText v ++ rest) = exponentText v := by
  obtain ⟨v, hv⟩ := fractionText_isPrefix (s.dropWhile isAsciiDigit)
  obtain ⟨rest, hrest⟩ := exponentText_isPrefix v
  refine ⟨s.takeWhile isAsciiDigit, s.dropWhile isAsciiDigit, v, rest, ?_, rfl, ?_, ?_⟩
  · rw [hrest, hv, List.takeWhile_append_dropWhile]
  · rw [hrest, hv]
  · rw [hrest]

/-- A number is read alone as it is read in front of other text. -/
theorem readNumber_alone {m : Munch} (h : readNumber s = .ok m) :
    readNumber m.text = .ok ⟨m.token, m.text, []⟩ := by
  obtain ⟨whole, u, v, rest, hs, hwhole, hfraction, hpower⟩ := exists_number_parts s
  have hdigits : ∀ c ∈ whole, isAsciiDigit c = true := hwhole ▸ fun _ => List.mem_takeWhile_imp
  rw [hs] at h hwhole
  rw [readNumber_eq hwhole hfraction hpower] at h
  obtain ⟨token, htoken, rfl⟩ := map_eq_ok.mp h
  -- without what follows it, the text has the same three parts
  have hwholeAlone : (whole ++ (fractionText u ++ (exponentText v ++ []))).takeWhile isAsciiDigit =
      whole := by
    rw [List.append_nil]
    exact takeWhile_digits_append hdigits (startsWithDigit_fractionText_append u v)
  have hfractionAlone : fractionText (fractionText u ++ (exponentText v ++ [])) =
      fractionText u := by
    rw [List.append_nil]
    exact fractionText_append u v
  have hpowerAlone : exponentText (exponentText v ++ []) = exponentText v := by
    rw [List.append_nil]
    exact exponentText_exponentText v
  have halone := readNumber_eq hwholeAlone hfractionAlone hpowerAlone
  rw [htoken, List.append_nil, ← List.append_assoc] at halone
  exact halone

end Number

/-! ### Other tokens alone -/

/-- A quoted string ends at its closing quote, whatever follows. -/
theorem readQuoted_alone {quote : Char} {raw content s : List Char} {m : Munch}
    (h : readQuoted quote raw content s = some m) :
    ∃ t, s = t ++ m.rest ∧ m.text = raw.reverse ++ t ∧
      readQuoted quote raw content t = some ⟨m.token, m.text, []⟩ := by
  fun_induction readQuoted quote raw content s with
  | case1 => cases h
  | case2 raw content c hc =>
    obtain rfl := Option.some.inj h
    exact ⟨[c], rfl, List.reverse_cons, by rw [readQuoted, if_pos hc]⟩
  | case3 => cases h
  | case4 raw content c d rest hc =>
    obtain rfl := Option.some.inj h
    exact ⟨[c], rfl, List.reverse_cons, by rw [readQuoted, if_pos hc]⟩
  | case5 raw content c d rest hc hslash ih =>
    obtain ⟨t, rfl, htext, hread⟩ := ih h
    refine ⟨c :: d :: t, rfl, ?_, ?_⟩
    · rw [htext]
      simp only [List.reverse_cons, List.append_assoc, List.cons_append, List.nil_append]
    · rw [readQuoted, if_neg hc, if_pos hslash, hread]
  | case6 raw content c d rest hc hslash ih =>
    obtain ⟨t, hrest, htext, hread⟩ := ih h
    cases t with
    | nil => simp [readQuoted] at hread
    | cons e t =>
      refine ⟨c :: e :: t, congrArg (c :: ·) hrest, ?_, ?_⟩
      · rw [htext, List.reverse_cons, List.append_assoc, List.cons_append, List.nil_append]
      · rw [readQuoted, if_neg hc, if_neg hslash, hread]

/-- No spelling of a mark is the start of an earlier one, so a mark alone is itself. -/
theorem readMark_alone {s : List Char} {m : Munch} (h : readMark s = some m) :
    readMark m.text = some ⟨m.token, m.text, []⟩ := by
  obtain ⟨p, hp, rfl⟩ := Option.map_eq_some_iff.mp h
  have hall : spellings.all (fun p => spellings.find? (spells p.1) == some p) = true := by decide
  have hfind := List.all_eq_true.mp hall p (List.mem_of_find?_eq_some hp)
  rw [readMark, eq_of_beq hfind, Option.map_some, List.drop_length]

/-- A token is read alone as it is read in front of other text. -/
theorem readToken_alone {c : Char} {rest : List Char} {m : Munch} (h : readToken c rest = .ok m) :
    ∃ t, m.text = c :: t ∧ readToken c t = .ok ⟨m.token, m.text, []⟩ := by
  obtain ⟨t, htext⟩ : ∃ t, m.text = c :: t := by
    obtain ⟨happend, hne⟩ := readToken_append h
    obtain ⟨d, t, ht⟩ := List.exists_cons_of_ne_nil hne
    rw [ht, List.cons_append] at happend
    exact ⟨t, by rw [ht, (List.cons.inj happend).1]⟩
  refine ⟨t, htext, ?_⟩
  unfold readToken at h ⊢
  split at h
  · next hdigit =>
    rw [if_pos hdigit, ← htext]
    exact readNumber_alone h
  · next hdigit =>
    rw [if_neg hdigit]
    split at h
    · next hquote =>
      rw [if_pos hquote]
      split at h
      · next m' hread =>
        obtain rfl := Except.ok.inj h
        obtain ⟨t', -, htext', halone⟩ := readQuoted_alone hread
        obtain rfl : t = t' := (List.cons.inj (htext.symm.trans htext')).2
        rw [halone]
      · cases h
    · next hquote =>
      rw [if_neg hquote]
      split at h
      · next hstart =>
        obtain rfl := Except.ok.inj h
        rw [if_pos hstart, ← htext]
        simp only [List.takeWhile_idem]
        rw [List.dropWhile_eq_nil_iff.mpr fun _ => List.mem_takeWhile_imp]
      · next hstart =>
        rw [if_neg hstart]
        split at h
        · next m' hread =>
          obtain rfl := Except.ok.inj h
          rw [← htext, readMark_alone hread]
        · cases h

/-- The text of a token is a text with this token only. -/
theorem tokens_of_readToken {c : Char} {rest : List Char} {m : Munch} (hc : isBlank c = false)
    (h : readToken c rest = .ok m) : tokens m.text = .ok [⟨m.token, m.text, 0⟩] := by
  obtain ⟨t, htext, hread⟩ := readToken_alone h
  rw [tokens, htext, tokensFrom_of_readToken 0 [] hc hread, tokensFrom_nil, htext]
  rfl

/-! ### Tokens and blanks by turns -/

/-- The text that stands at `offset` is made of blanks and, between them, the texts of lexemes. Each
of these is a token alone and stands where its lexeme says. -/
inductive Tiling : Nat → List Char → List Lexeme → Prop
  | last {offset : Nat} {gap : List Char} (blank : ∀ c ∈ gap, isBlank c = true) :
    Tiling offset gap []
  | lexeme {offset : Nat} {gap rest : List Char} {l : Lexeme} {more : List Lexeme}
    (blank : ∀ c ∈ gap, isBlank c = true)
    (nonempty : l.text ≠ [])
    (place : l.offset = offset + byteSize gap)
    (alone : tokens l.text = .ok [⟨l.token, l.text, 0⟩])
    (behind : Tiling (l.offset + byteSize l.text) rest more) :
    Tiling offset (gap ++ (l.text ++ rest)) (l :: more)

namespace Tiling

variable {offset : Nat} {s : List Char} {lexemes : List Lexeme} {l : Lexeme}

theorem cons_blank {c : Char} (hc : isBlank c = true)
    (h : Tiling (offset + c.utf8Size) s lexemes) : Tiling offset (c :: s) lexemes := by
  cases h with
  | last blank => exact .last (List.forall_mem_cons.mpr ⟨hc, blank⟩)
  | lexeme blank nonempty place alone behind =>
    refine .lexeme (List.forall_mem_cons.mpr ⟨hc, blank⟩) nonempty ?_ alone behind
    rw [byteSize_cons]
    omega

/-- Each lexeme stands in the text, at its offset. -/
theorem standsAt (h : Tiling offset s lexemes) (hl : l ∈ lexemes) :
    ∃ n, l.offset = offset + n ∧ StandsAt l.text n s := by
  induction h with
  | last blank => cases hl
  | @lexeme offset gap rest l' more blank nonempty place alone behind ih =>
    rcases List.mem_cons.mp hl with rfl | hmore
    · exact ⟨byteSize gap, place, (StandsAt.front l.text rest).behind gap⟩
    · obtain ⟨n, hn, hstands⟩ := ih hmore
      refine ⟨byteSize gap + (byteSize l'.text + n), by omega, ?_⟩
      exact (hstands.behind l'.text).behind gap

/-- Each lexeme starts behind the end of those before it. -/
theorem pairwise (h : Tiling offset s lexemes) :
    lexemes.Pairwise fun l l' => l.offset + byteSize l.text ≤ l'.offset := by
  induction h with
  | last blank => exact .nil
  | lexeme blank nonempty place alone behind ih =>
    refine List.pairwise_cons.mpr ⟨?_, ih⟩
    intro l' hl'
    obtain ⟨n, hn, -⟩ := behind.standsAt hl'
    omega

theorem text_ne_nil (h : Tiling offset s lexemes) (hl : l ∈ lexemes) : l.text ≠ [] := by
  induction h with
  | last blank => cases hl
  | lexeme blank nonempty place alone behind ih =>
    rcases List.mem_cons.mp hl with rfl | hmore
    · exact nonempty
    · exact ih hmore

/-- Offsets go up from each lexeme to every later one. -/
theorem offset_lt (h : Tiling offset s lexemes) :
    lexemes.Pairwise fun l l' => l.offset < l'.offset := by
  refine h.pairwise.imp_of_mem ?_
  intro l l' hl _ hle
  have hpos := byteSize_pos (h.text_ne_nil hl)
  omega

end Tiling

/-- What is left of a text is tiled by the tokens that are found in it, behind those found already.
-/
theorem tiling_of_tokensFrom {offset : Nat} {found lexemes : List Lexeme} {s : List Char}
    (h : tokensFrom offset found s = .ok lexemes) :
    ∃ more, lexemes = found.reverse ++ more ∧ Tiling offset s more := by
  fun_induction tokensFrom offset found s with
  | case1 offset found =>
    obtain rfl := Except.ok.inj h
    exact ⟨[], (List.append_nil _).symm, .last nofun⟩
  | case2 offset found c rest hc ih =>
    obtain ⟨more, rfl, hmore⟩ := ih h
    exact ⟨more, rfl, hmore.cons_blank hc⟩
  | case3 => cases h
  | case4 offset found c rest hc m hread ih =>
    obtain ⟨more, rfl, hmore⟩ := ih h
    obtain ⟨happend, hne⟩ := readToken_append hread
    refine ⟨⟨m.token, m.text, offset⟩ :: more, by simp, ?_⟩
    have halone := tokens_of_readToken (Bool.eq_false_iff.mpr hc) hread
    have htiling : Tiling offset ([] ++ (m.text ++ m.rest)) (⟨m.token, m.text, offset⟩ :: more) :=
      .lexeme (l := ⟨m.token, m.text, offset⟩) nofun hne rfl halone hmore
    rwa [List.nil_append, happend] at htiling

theorem tiling_of_tokens {source : List Char} {lexemes : List Lexeme}
    (h : tokens source = .ok lexemes) : Tiling 0 source lexemes := by
  obtain ⟨more, rfl, hmore⟩ := tiling_of_tokensFrom h
  exact hmore

theorem standsAt_of_tokens {source : List Char} {lexemes : List Lexeme} {l : Lexeme}
    (h : tokens source = .ok lexemes) (hl : l ∈ lexemes) : StandsAt l.text l.offset source := by
  obtain ⟨n, hn, hstands⟩ := (tiling_of_tokens h).standsAt hl
  rw [hn, Nat.zero_add]
  exact hstands

/-- What starts no token is at a place of the text. -/
theorem standsAt_of_tokensFrom_error {offset : Nat} {found : List Lexeme} {s : List Char}
    {e : SyntaxError} (h : tokensFrom offset found s = .error e) :
    ∃ n, e.offset = offset + n ∧ StandsAt [] n s := by
  fun_induction tokensFrom offset found s with
  | case1 => cases h
  | case2 offset found c rest hc ih =>
    obtain ⟨n, hn, hstands⟩ := ih h
    refine ⟨c.utf8Size + n, by omega, ?_⟩
    simpa using hstands.behind [c]
  | case3 offset found c rest hc fault hread =>
    obtain rfl := Except.error.inj h
    exact ⟨0, rfl, StandsAt.front [] _⟩
  | case4 offset found c rest hc m hread ih =>
    obtain ⟨n, hn, hstands⟩ := ih h
    refine ⟨byteSize m.text + n, by omega, ?_⟩
    rw [← (readToken_append hread).1]
    exact hstands.behind m.text

end Stencil.Expr
