import Stencil.Proofs.DottedPath
import Stencil.Proofs.LoopHeaders

/-!
Variables of loops and identifiers of expressions. A variable starts with an ASCII letter, an
underscore or a dollar sign and goes on with word characters; an identifier starts with any letter and
goes on with letters and numerals. The two agree on ASCII, and beyond it exactly where every character
belongs to both.
-/
namespace Stencil

open Text

namespace Expr

variable {c : Char} {offset : Nat} {name : String} {s rest : List Char} {found lexemes : List Lexeme}
  {m : Munch}

/-- The text is one token, the identifier that it spells. -/
def IsToken (name : List Char) : Prop :=
  ∃ lexeme, tokens name = .ok [lexeme] ∧ lexeme.token = .ident (String.ofList name)

/-- Every token of a text was read somewhere in it. -/
theorem exists_readToken_of_tokensFrom (h : tokensFrom offset found s = .ok lexemes) :
    ∀ l ∈ lexemes, l ∈ found ∨
      ∃ c rest m, readToken c rest = .ok m ∧ l.token = m.token ∧ l.text = m.text := by
  fun_induction tokensFrom offset found s with
  | case1 offset found =>
    obtain rfl := Except.ok.inj h
    intro l hl
    exact Or.inl (List.mem_reverse.mp hl)
  | case2 offset found c rest _ ih => exact ih h
  | case3 => cases h
  | case4 offset found c rest _ m hread ih =>
    intro l hl
    rcases ih h l hl with hmem | hread'
    · rcases List.mem_cons.mp hmem with rfl | hmem
      · exact Or.inr ⟨c, rest, m, hread, rfl, rfl⟩
      · exact Or.inl hmem
    · exact Or.inr hread'

theorem token_readQuoted {quote : Char} {raw content : List Char}
    (h : readQuoted quote raw content s = some m) : ∃ t, m.token = .string t := by
  fun_induction readQuoted quote raw content s with
  | case1 => cases h
  | case2 raw content c hc =>
    obtain rfl := Option.some.inj h
    exact ⟨_, rfl⟩
  | case3 => cases h
  | case4 raw content c d rest hc =>
    obtain rfl := Option.some.inj h
    exact ⟨_, rfl⟩
  | case5 raw content c d rest _ _ ih => exact ih h
  | case6 raw content c d rest _ _ ih => exact ih h

theorem token_readNumber (h : readNumber s = .ok m) : m.token ≠ .ident name := by
  unfold readNumber at h
  dsimp only at h
  split at h
  · obtain rfl := Except.ok.inj h
    intro hident
    cases hident
  · split at h
    · obtain rfl := Except.ok.inj h
      intro hident
      cases hident
    · cases h

/-- A token that is an identifier spells its name. -/
theorem isIdentifier_of_readToken (h : readToken c rest = .ok m) (hm : m.token = .ident name) :
    isIdentifier m.text = true ∧ name = String.ofList m.text := by
  unfold readToken at h
  split at h
  · exact absurd hm (token_readNumber h)
  · split at h
    · split at h
      · next m' hquoted =>
        obtain rfl := Except.ok.inj h
        obtain ⟨t, ht⟩ := token_readQuoted hquoted
        rw [ht] at hm
        cases hm
      · cases h
    · split at h
      · next hstart =>
        obtain rfl := Except.ok.inj h
        refine ⟨?_, (Token.ident.inj hm).symm⟩
        rw [List.takeWhile_cons, isIdentPart_of_isIdentStart hstart, if_pos rfl, isIdentifier,
          hstart, List.all_takeWhile]
        rfl
      · split at h
        · next m' hmark =>
          obtain rfl := Except.ok.inj h
          obtain ⟨p, -, rfl⟩ := Option.map_eq_some_iff.mp hmark
          cases hm
        · cases h

theorem isToken_iff {name : List Char} : IsToken name ↔ isIdentifier name = true := by
  constructor
  · rintro ⟨lexeme, htokens, htoken⟩
    rcases exists_readToken_of_tokensFrom htokens lexeme (List.mem_singleton_self _) with
      hmem | ⟨c, rest, m, hread, hsame, -⟩
    · cases hmem
    · obtain ⟨hident, hname⟩ := isIdentifier_of_readToken hread (hsame.symm.trans htoken)
      rw [String.ofList_inj.mp hname]
      exact hident
  · intro h
    cases name with
    | nil => cases h
    | cons c s =>
      have hblank : isBlank c = false := isBlank_of_isIdentPart <|
        isIdentPart_of_isIdentStart (Bool.and_eq_true .. |>.mp h).1
      have hread := readToken_identifier h []
      rw [show pointed [] = [] from rfl, List.append_nil] at hread
      refine ⟨⟨.ident (String.ofList (c :: s)), c :: s, 0⟩, ?_, rfl⟩
      exact (tokensFrom_of_readToken 0 [] hblank hread).trans (tokensFrom_nil _ _)

/-- An identifier is the expression for the variable of its name, unless the word means something
else. -/
theorem parse_of_isToken {name : List Char} (h : IsToken name)
    (hvar : String.ofList name ∉ Grammar.reserved) :
    parse name = .ok (.var (String.ofList name)) := by
  have hparse : parse (pathText name []) = .ok (members (.var (String.ofList name)) []) :=
    parse_pathText (isToken_iff.mp h) hvar (fun s hs => by cases hs)
      ⟨List.isChain_nil, fun s hs => by cases hs⟩ (Nat.zero_le _)
  rwa [pathText_eq, show pointed [] = [] from rfl, List.append_nil] at hparse

end Expr

namespace Directive.LoopHeader

open Stencil.Expr (IsToken isToken_iff isIdentifier isIdentStart isIdentPart)

variable {c : Char} {name : List Char}

/-- A loop over `xs` with this text in front of the word `in` binds the text. -/
def IsVariable (name : List Char) : Prop :=
  ∃ header, parse (name ++ " in xs".toList) = some header ∧ header.item = name

theorem Variables.isName {item vars : List Char} {key : Option (List Char)}
    (h : Variables item key vars) : isName item = true := by
  cases h with
  | single hitem => exact hitem
  | pair hitem => exact hitem

theorem isVariable_iff : IsVariable name ↔ isName name = true := by
  constructor
  · rintro ⟨header, hparse, rfl⟩
    obtain ⟨_, _, -, ⟨-, hvars, -, -⟩, -⟩ := parse_eq_some_iff.mp hparse
    exact hvars.isName
  · intro h
    have hspace : Blanks [' '] := List.forall_mem_singleton.mpr (by decide)
    have hfront : Front name none ([] ++ (name ++ ([' '] ++ ['i', 'n']))) :=
      .mk blanks_nil (.single h) hspace (List.cons_ne_nil _ _)
    have hbehind : Behind ['x', 's'] ([' '] ++ (['x', 's'] ++ [])) :=
      .trimmed hspace (List.cons_ne_nil _ _) (List.cons_ne_nil _ _) (by decide) blanks_nil
    refine ⟨⟨name, none, ['x', 's']⟩, parse_eq_some_iff.mpr ⟨_, _, ?_, hfront, hbehind⟩, rfl⟩
    rw [List.nil_append, List.append_assoc]
    rfl

/-! ### The two classes of characters -/

theorem isAscii_of_isNameStart (h : isNameStart c = true) : c.toNat < 0x80 := by
  rw [isNameStart, Bool.or_eq_true, Bool.or_eq_true, beq_iff_eq, beq_iff_eq] at h
  rcases h with (hletter | rfl) | rfl
  · exact isAscii_of_isAsciiLetter hletter
  · decide
  · decide

theorem isNameStart_eq_isIdentStart (hascii : c.toNat < 0x80) :
    isNameStart c = isIdentStart c := by
  rw [isNameStart, isIdentStart, isLetter, if_pos hascii]

theorem isNamePart_eq_isIdentPart (hascii : c.toNat < 0x80) : isNamePart c = isIdentPart c := by
  rw [isNamePart, isWord, if_pos hascii, isIdentPart, isAlphanumeric, isLetter, if_pos hascii,
    isNumeral, if_pos hascii]
  rfl

theorem isIdentifier_iff_of_isName (h : isName name = true) :
    isIdentifier name = true ↔ ∀ c ∈ name, isIdentPart c = true := by
  obtain ⟨c, tail, rfl, hstart, -⟩ := exists_cons_of_isName h
  rw [isNameStart_eq_isIdentStart (isAscii_of_isNameStart hstart)] at hstart
  constructor
  · intro hident
    exact Expr.all_isIdentPart_of_isSegment (Bool.or_eq_true .. |>.mpr (Or.inl hident))
  · intro hall
    rw [isIdentifier, hstart, Bool.true_and]
    exact List.all_eq_true.mpr fun d hd => hall d (List.mem_cons_of_mem c hd)

theorem isName_iff_of_isIdentifier (h : isIdentifier name = true) :
    isName name = true ↔ (∀ c ∈ name.head?, c.toNat < 0x80) ∧ ∀ c ∈ name, isNamePart c = true := by
  constructor
  · intro hname
    refine ⟨fun c hc => ?_, all_isNamePart_of_isName hname⟩
    obtain ⟨d, tail, rfl, hstart, -⟩ := exists_cons_of_isName hname
    obtain rfl := Option.some.inj hc
    exact isAscii_of_isNameStart hstart
  · rintro ⟨hhead, hall⟩
    cases name with
    | nil => cases h
    | cons c tail =>
      have hstart : isIdentStart c = true := (Bool.and_eq_true .. |>.mp h).1
      rw [← isNameStart_eq_isIdentStart (hhead c rfl)] at hstart
      rw [isName, hstart, Bool.true_and]
      exact List.all_eq_true.mpr fun d hd => hall d (List.mem_cons_of_mem c hd)

/-- A variable of a loop is an identifier of expressions exactly if it is made of letters, numerals,
underscores and dollar signs, and an identifier is a variable exactly if its first character is ASCII
and all of them are word characters or dollar signs. So the two are the same names on ASCII. An
identifier is also the expression for the variable, unless it is a literal or `not`. -/
theorem isVariable_and_isToken (name : List Char) :
    (IsVariable name → (IsToken name ↔ ∀ c ∈ name, isIdentPart c = true)) ∧
    (IsToken name → (IsVariable name ↔
      (∀ c ∈ name.head?, c.toNat < 0x80) ∧ ∀ c ∈ name, isNamePart c = true)) ∧
    ((∀ c ∈ name, c.toNat < 0x80) → (IsVariable name ↔ IsToken name)) ∧
    (IsToken name → String.ofList name ∉ Expr.Grammar.reserved →
      Expr.parse name = .ok (.var (String.ofList name))) := by
  rw [isVariable_iff, isToken_iff]
  refine ⟨isIdentifier_iff_of_isName, isName_iff_of_isIdentifier, fun hascii => ?_, fun h hvar => ?_⟩
  · constructor
    · intro hname
      refine (isIdentifier_iff_of_isName hname).mpr fun c hc => ?_
      rw [← isNamePart_eq_isIdentPart (hascii c hc)]
      exact all_isNamePart_of_isName hname c hc
    · intro hident
      refine (isName_iff_of_isIdentifier hident).mpr ⟨fun c hc => ?_, fun c hc => ?_⟩
      · exact hascii c (List.mem_of_mem_head? hc)
      · rw [isNamePart_eq_isIdentPart (hascii c hc)]
        exact Expr.all_isIdentPart_of_isSegment (Bool.or_eq_true .. |>.mpr (Or.inl hident)) c hc
  · exact Expr.parse_of_isToken (isToken_iff.mpr h) hvar

/-- A letter beyond ASCII that does not come first. -/
theorem isVariable_and_isToken_accented :
    IsVariable "naïve".toList ∧ IsToken "naïve".toList ∧
      Expr.parse "naïve".toList = .ok (.var "naïve") := by
  obtain ⟨hvariable, -, -, hparse⟩ := isVariable_and_isToken "naïve".toList
  have hname : IsVariable "naïve".toList := isVariable_iff.mpr (by decide)
  have htoken : IsToken "naïve".toList :=
    (hvariable hname).mpr (List.all_eq_true.mp (by decide))
  exact ⟨hname, htoken, hparse htoken (by decide)⟩

/-- A letter beyond ASCII in front, and a connector that is neither letter nor numeral. -/
theorem isVariable_ne_isToken :
    (IsToken "é".toList ∧ ¬ IsVariable "é".toList) ∧
      IsVariable "x‿y".toList ∧ ¬ IsToken "x‿y".toList := by
  rw [isVariable_iff, isToken_iff, isVariable_iff, isToken_iff]
  decide +kernel

end Directive.LoopHeader

end Stencil
