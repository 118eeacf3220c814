import Stencil.Expr.Error
import Stencil.Text.Blank
import Stencil.Text.Class
import Stencil.Text.Position
import Stencil.Decimal.Reader

/-!
From text to tokens. Every token is read from the front of the text that is left and is not empty;
its text and what follows make up that text again, so the tokens tile the text up to blanks.
-/
namespace Stencil.Expr

open Text

/-- A token at the front of a text: the token, its own text, and what follows. -/
structure Munch where
  token : Token
  text : List Char
  rest : List Char

def startsWithDigit : List Char → Bool
  | [] => false
  | c :: _ => isAsciiDigit c

/-- The point and the digits of a fraction at the front of a text, if there is one. -/
def fractionText : List Char → List Char
  | '.' :: rest => if startsWithDigit rest then '.' :: rest.takeWhile isAsciiDigit else []
  | _ => []

/-- The letter, sign and digits of an exponent at the front of a text, if there is one. -/
def exponentText : List Char → List Char
  | e :: s :: rest =>
    if e == 'e' || e == 'E' then
      if isAsciiDigit s then e :: (s :: rest).takeWhile isAsciiDigit
      else if (s == '+' || s == '-') && startsWithDigit rest then
        e :: s :: rest.takeWhile isAsciiDigit
      else []
    else []
  | _ => []

/-- The number at the front of a text. A run of digits that fits in 64 bits is an integer. -/
def readNumber (s : List Char) : Except SyntaxFault Munch :=
  let whole := s.takeWhile isAsciiDigit
  let fraction := fractionText (s.drop whole.length)
  let power := exponentText (s.drop (whole.length + fraction.length))
  let text := s.take (whole.length + fraction.length + power.length)
  let rest := s.drop (whole.length + fraction.length + power.length)
  match (if fraction.isEmpty && power.isEmpty then Decimal.word? text else none) with
  | some n => .ok ⟨.int n, text, rest⟩
  | none =>
    match Decimal.float? text with
    | some x => .ok ⟨.float x, text, rest⟩
    | none => .error (.invalidNumber text)

/-- The character that a backslash and `c` stand for. -/
def unescape (c : Char) : Char :=
  match c with
  | 'n' => '\n'
  | 't' => '\t'
  | 'r' => '\r'
  | '0' => '\x00'
  | c => c

/-- Reads a quoted string behind its opening quote, with the text and the content so far, last
character first. -/
def readQuoted (quote : Char) (raw content : List Char) : List Char → Option Munch
  | [] => none
  | [c] =>
    if c == quote then some ⟨.string (String.ofList content.reverse), (c :: raw).reverse, []⟩
    else none
  | c :: d :: rest =>
    if c == quote then
      some ⟨.string (String.ofList content.reverse), (c :: raw).reverse, d :: rest⟩
    else if c == '\\' then readQuoted quote (d :: c :: raw) (unescape d :: content) rest
    else readQuoted quote (c :: raw) (c :: content) (d :: rest)

def isIdentStart (c : Char) : Bool := isLetter c || c == '_' || c == '$'

def isIdentPart (c : Char) : Bool := isAlphanumeric c || c == '_' || c == '$'

/-- The spellings of marks; of two that fit, the earlier is meant. -/
def spellings : List (List Char × Mark) :=
  [("===".toList, .equal), ("!==".toList, .notEqual), ("??".toList, .coalesce),
   ("?.".toList, .questionDot), ("==".toList, .equal), ("!=".toList, .notEqual),
   ("<=".toList, .lessEqual), (">=".toList, .greaterEqual), ("&&".toList, .and),
   ("||".toList, .or), ("?".toList, .question), ("!".toList, .bang), ("<".toList, .less),
   (">".toList, .greater), ("(".toList, .leftParen), (")".toList, .rightParen),
   ("[".toList, .leftBracket), ("]".toList, .rightBracket), ("\x7b".toList, .leftBrace),
   ("\x7d".toList, .rightBrace), (",".toList, .comma), (".".toList, .dot),
   (":".toList, .colon), ("+".toList, .plus), ("-".toList, .minus), ("*".toList, .star),
   ("/".toList, .slash), ("%".toList, .percent)]

/-- Whether a spelling stands at the front of a text. A question mark and a point in front of a
digit are a condition and a number. -/
def spells (s : List Char) (spelling : List Char × Mark) : Bool :=
  spelling.1.isPrefixOf s &&
    !(spelling.2 == .questionDot && startsWithDigit (s.drop spelling.1.length))

/-- The mark at the front of a text. -/
def readMark (s : List Char) : Option Munch :=
  (spellings.find? (spells s)).map fun p => ⟨.mark p.2, p.1, s.drop p.1.length⟩

/-- The token at the front of a text that starts with `c`. -/
def readToken (c : Char) (rest : List Char) : Except SyntaxFault Munch :=
  if isAsciiDigit c then readNumber (c :: rest)
  else if c == '\'' || c == '"' then
    match readQuoted c [c] [] rest with
    | some m => .ok m
    | none => .error .unterminatedString
  else if isIdentStart c then
    .ok ⟨.ident (String.ofList ((c :: rest).takeWhile isIdentPart)),
      (c :: rest).takeWhile isIdentPart, (c :: rest).dropWhile isIdentPart⟩
  else
    match readMark (c :: rest) with
    | some m => .ok m
    | none => .error (.unexpectedChar c)

theorem readQuoted_append {quote : Char} {raw content s : List Char} {m : Munch}
    (h : readQuoted quote raw content s = some m) :
    m.text ++ m.rest = raw.reverse ++ s ∧ raw.length < m.text.length := by
  fun_induction readQuoted quote raw content s with
  | case1 => simp at h
  | case2 raw content c hc =>
    simp only [Option.some.injEq] at h
    subst h
    simp
  | case3 => simp at h
  | case4 raw content c d rest hc =>
    simp only [Option.some.injEq] at h
    subst h
    simp
  | case5 raw content c d rest _ _ ih =>
    obtain ⟨h1, h2⟩ := ih h
    refine ⟨by simpa using h1, ?_⟩
    simp only [List.length_cons] at h2
    omega
  | case6 raw content c d rest _ _ ih =>
    obtain ⟨h1, h2⟩ := ih h
    refine ⟨by simpa using h1, ?_⟩
    simp only [List.length_cons] at h2
    omega

theorem spelling_ne_nil {p : List Char × Mark} (h : p ∈ spellings) : p.1 ≠ [] := by
  have all : spellings.all (fun p => !p.1.isEmpty) = true := by decide
  have := List.all_eq_true.mp all p h
  intro he
  simp [he] at this

theorem isIdentPart_of_isIdentStart {c : Char} (h : isIdentStart c = true) :
    isIdentPart c = true := by
  simp only [isIdentStart, isIdentPart, isAlphanumeric, Bool.or_eq_true] at h ⊢
  rcases h with (h | h) | h <;> simp [h]

/-- A token and what follows it make up the text, and the token is not empty. -/
theorem readToken_append {c : Char} {rest : List Char} {m : Munch}
    (h : readToken c rest = .ok m) : m.text ++ m.rest = c :: rest ∧ m.text ≠ [] := by
  unfold readToken at h
  split at h
  · next hd =>
    unfold readNumber at h
    dsimp only at h
    have hpos : 0 < ((c :: rest).takeWhile isAsciiDigit).length := by
      simp [List.takeWhile, hd]
    split at h
    · simp only [Except.ok.injEq] at h
      subst h
      refine ⟨List.take_append_drop _ _, ?_⟩
      intro he
      have := congrArg List.length he
      simp only [List.length_take, List.length_nil, List.length_cons] at this
      omega
    · split at h
      · simp only [Except.ok.injEq] at h
        subst h
        refine ⟨List.take_append_drop _ _, ?_⟩
        intro he
        have := congrArg List.length he
        simp only [List.length_take, List.length_nil, List.length_cons] at this
        omega
      · simp at h
  · split at h
    · split at h
      · next m' hm =>
        simp only [Except.ok.injEq] at h
        subst h
        obtain ⟨h1, h2⟩ := readQuoted_append hm
        refine ⟨by simpa using h1, ?_⟩
        intro he
        simp [he] at h2
      · simp at h
    · split at h
      · next hs =>
        simp only [Except.ok.injEq] at h
        subst h
        refine ⟨List.takeWhile_append_dropWhile, ?_⟩
        simp [List.takeWhile, isIdentPart_of_isIdentStart hs]
      · split at h
        · next m' hm =>
          simp only [Except.ok.injEq] at h
          subst h
          unfold readMark at hm
          obtain ⟨p, hp, rfl⟩ := Option.map_eq_some_iff.mp hm
          have hmem := List.mem_of_find?_eq_some hp
          have hsp := List.find?_some hp
          simp only [spells, Bool.and_eq_true] at hsp
          obtain ⟨t, ht⟩ := List.isPrefixOf_iff_prefix.mp hsp.1
          refine ⟨?_, spelling_ne_nil hmem⟩
          simp [← ht]
        · simp at h

theorem length_lt_of_readToken {c : Char} {rest : List Char} {m : Munch}
    (h : readToken c rest = .ok m) : m.rest.length < (c :: rest).length := by
  obtain ⟨h1, h2⟩ := readToken_append h
  rw [← h1, List.length_append]
  have := List.length_pos_iff.mpr h2
  omega

/-- The tokens of `s`, which stands behind `offset` bytes, after those found already, last first. -/
def tokensFrom (offset : Nat) (found : List Lexeme) (s : List Char) :
    Except SyntaxError (List Lexeme) :=
  match s with
  | [] => .ok found.reverse
  | c :: rest =>
    if isBlank c then tokensFrom (offset + c.utf8Size) found rest
    else
      match _h : readToken c rest with
      | .error fault => .error ⟨offset, fault⟩
      | .ok m => tokensFrom (offset + byteSize m.text) (⟨m.token, m.text, offset⟩ :: found) m.rest
termination_by s.length
decreasing_by
  · exact Nat.lt_succ_self _
  · exact length_lt_of_readToken (by assumption)

/-- The tokens of a text, in order. -/
def tokens (s : List Char) : Except SyntaxError (List Lexeme) := tokensFrom 0 [] s

end Stencil.Expr
