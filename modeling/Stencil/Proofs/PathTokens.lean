import Stencil.Proofs.AcceptedGrammar
import Stencil.Proofs.Positions
import Mathlib.Data.List.Chain

/-!
The tokens of dotted paths. Where two runs of digits stand at a point they are one number together,
and a run of digits that does not fit in 64 bits is no integer; apart from that every segment is one
token, which names a member of what stands before its point.
-/
namespace Stencil.Expr

open Grammar Text Decimal

/-! ### Paths -/

def isIdentifier : List Char → Bool
  | [] => false
  | c :: rest => isIdentStart c && rest.all isIdentPart

/-- What the members of a path are: identifiers and runs of digits. -/
def isSegment (s : List Char) : Bool := isIdentifier s || isPosition s

def pathText (first : List Char) (rest : List (List Char)) : List Char :=
  ['.'].intercalate (first :: rest)

/-- The segments with a point in front of each. -/
def pointed (rest : List (List Char)) : List Char := rest.flatMap ('.' :: ·)

/-- The points of a path are what separates its tokens, and its positions fit in 64 bits. -/
structure Legible (rest : List (List Char)) : Prop where
  apart : rest.IsChain fun s t => isPosition s = true → isPosition t = false
  bounded : ∀ s ∈ rest, isPosition s = true → (digitsValue s : Int) ≤ Int64.maxValue.toInt

/-- The name of the member that a segment asks for. -/
def memberKey (s : List Char) : String :=
  if isPosition s then wholeText (digitsValue s) else String.ofList s

/-- The members of a tree along a path. -/
def members (t : Tree) (rest : List (List Char)) : Tree :=
  rest.foldl (fun t s => .member t (memberKey s)) t

section Tokens

variable {c : Char} {s first : List Char} {rest : List (List Char)}

theorem pathText_eq (first : List Char) (rest : List (List Char)) :
    pathText first rest = first ++ pointed rest := by
  induction rest generalizing first with
  | nil =>
    rw [pathText, List.intercalate_singleton]
    exact (List.append_nil first).symm
  | cons s rest ih =>
    rw [pathText, List.intercalate_cons_cons, ← pathText, ih, List.append_assoc]
    rfl

/-- All blank characters. -/
def blanks : List Char :=
  [0x09, 0x0a, 0x0b, 0x0c, 0x0d, 0x20, 0x85, 0xa0, 0x1680, 0x2000, 0x2001, 0x2002, 0x2003, 0x2004,
    0x2005, 0x2006, 0x2007, 0x2008, 0x2009, 0x200a, 0x2028, 0x2029, 0x202f, 0x205f, 0x3000].map
    Char.ofNat

theorem mem_blanks_of_isBlank (h : isBlank c = true) : c ∈ blanks := by
  rw [← Char.ofNat_toNat c]
  apply List.mem_map_of_mem
  simp only [isBlank, Bool.or_eq_true, Bool.and_eq_true, decide_eq_true_eq, beq_iff_eq] at h
  simp only [List.mem_cons, List.not_mem_nil, or_false]
  omega

theorem not_isIdentPart_blanks : blanks.all (fun c => !isIdentPart c) = true := by decide +kernel

theorem isBlank_of_isIdentPart (h : isIdentPart c = true) : isBlank c = false := by
  cases hblank : isBlank c with
  | false => rfl
  | true =>
    have hc := List.all_eq_true.mp not_isIdentPart_blanks c (mem_blanks_of_isBlank hblank)
    rw [h] at hc
    cases hc

theorem isIdentPart_of_isAsciiDigit (h : isAsciiDigit c = true) : isIdentPart c = true := by
  have hlow : c.toNat < 0x80 := by
    have hbounds := isAsciiDigit_iff.mp h
    omega
  rw [isIdentPart, isAlphanumeric, isNumeral, if_pos hlow, h, Bool.or_true]
  rfl

theorem not_isAsciiDigit_of_isIdentStart (h : isIdentStart c = true) : isAsciiDigit c = false := by
  cases hdigit : isAsciiDigit c with
  | false => rfl
  | true =>
    obtain ⟨hlow, hhigh⟩ := isAsciiDigit_iff.mp hdigit
    have hletter : isLetter c = false := by
      rw [isLetter, if_pos (by omega), isAsciiLetter]
      simp only [Bool.or_eq_false_iff, Bool.and_eq_false_iff, decide_eq_false_iff_not]
      refine ⟨Or.inl fun ha => ?_, Or.inl fun ha => ?_⟩
      · have hle : 97 ≤ c.toNat := ha
        omega
      · have hle : 65 ≤ c.toNat := ha
        omega
    rw [isIdentStart, hletter, Bool.false_or, Bool.or_eq_true, beq_iff_eq, beq_iff_eq] at h
    rcases h with rfl | rfl <;> cases hdigit

theorem all_isIdentPart_of_isSegment (h : isSegment s = true) : ∀ c ∈ s, isIdentPart c = true := by
  intro c hc
  rcases Bool.or_eq_true .. |>.mp h with hident | hposition
  · cases s with
    | nil => cases hc
    | cons d s =>
      obtain ⟨hd, hs⟩ := Bool.and_eq_true .. |>.mp hident
      rcases List.mem_cons.mp hc with rfl | hmem
      · exact isIdentPart_of_isIdentStart hd
      · exact List.all_eq_true.mp hs c hmem
  · obtain ⟨-, hs⟩ := Bool.and_eq_true .. |>.mp hposition
    exact isIdentPart_of_isAsciiDigit (List.all_eq_true.mp hs c hc)

/-- What stands behind a segment: another point, or nothing. -/
theorem pointed_cases (rest : List (List Char)) :
    pointed rest = [] ∨ ∃ tail, pointed rest = '.' :: tail := by
  cases rest with
  | nil => exact Or.inl rfl
  | cons s rest => exact Or.inr ⟨s ++ pointed rest, rfl⟩

theorem takeWhile_pointed {p : Char → Bool} (hp : p '.' = false) (hs : ∀ c ∈ s, p c = true)
    (rest : List (List Char)) :
    (s ++ pointed rest).takeWhile p = s ∧ (s ++ pointed rest).dropWhile p = pointed rest := by
  rcases pointed_cases rest with hnil | ⟨tail, htail⟩
  · rw [hnil, List.takeWhile_append_of_pos hs, List.dropWhile_append_of_pos hs]
    exact ⟨List.append_nil s, rfl⟩
  · rw [htail]
    exact ⟨Markup.takeWhile_append_cons _ hs hp, Markup.dropWhile_append_cons _ hs hp⟩

theorem readToken_identifier (h : isIdentifier (c :: s) = true) (rest : List (List Char)) :
    readToken c (s ++ pointed rest) =
      .ok ⟨.ident (String.ofList (c :: s)), c :: s, pointed rest⟩ := by
  obtain ⟨hc, hs⟩ := Bool.and_eq_true .. |>.mp h
  have hall : ∀ d ∈ c :: s, isIdentPart d = true :=
    all_isIdentPart_of_isSegment (Bool.or_eq_true .. |>.mpr (Or.inl h))
  have hquote : (c == '\'' || c == '"') = false := by
    rw [Bool.or_eq_false_iff, beq_eq_false_iff_ne, beq_eq_false_iff_ne]
    constructor <;> rintro rfl <;> exact absurd hc (by decide)
  obtain ⟨htake, hdrop⟩ := takeWhile_pointed (by decide) hall rest
  rw [List.cons_append] at htake hdrop
  rw [readToken, not_isAsciiDigit_of_isIdentStart hc, hquote, hc, htake, hdrop]
  rfl

/-- A position is a token of its own unless a digit stands behind the point that follows it. -/
theorem readToken_position (h : isPosition (c :: s) = true)
    (hbound : (digitsValue (c :: s) : Int) ≤ Int64.maxValue.toInt)
    (hnext : startsWithDigit ((pointed rest).drop 1) = false) :
    readToken c (s ++ pointed rest) =
      .ok ⟨.int (Int64.ofInt (digitsValue (c :: s))), c :: s, pointed rest⟩ := by
  obtain ⟨hc, hs⟩ := isPosition_cons.mp h
  have hall : ∀ d ∈ c :: s, isAsciiDigit d = true :=
    List.all_eq_true.mp (Bool.and_eq_true .. |>.mp h).2
  obtain ⟨htake, -⟩ := takeWhile_pointed (by decide) hall rest
  rw [List.cons_append] at htake
  have hfraction : fractionText (pointed rest) = [] := by
    rcases pointed_cases rest with hnil | ⟨tail, htail⟩
    · rw [hnil]
      rfl
    · rw [htail] at hnext ⊢
      rw [fractionText, if_neg (by rw [List.drop_one, List.tail_cons] at hnext; simp [hnext])]
  have hpower : exponentText (pointed rest) = [] := by
    rcases pointed_cases rest with hnil | ⟨tail, htail⟩
    · rw [hnil]
      rfl
    · rw [htail]
      cases tail <;> rfl
  have hword : word? (c :: s) = some (Int64.ofInt (digitsValue (c :: s))) := by
    rw [word?_of_isPosition h, if_pos hbound]
  have hdrop : (c :: s ++ pointed rest).drop (c :: s).length = pointed rest := List.drop_left
  have htext : (c :: s ++ pointed rest).take (c :: s).length = c :: s := List.take_left
  rw [List.cons_append] at hdrop htext
  rw [readToken, if_pos hc, readNumber]
  simp only [htake, hdrop, hfraction, hpower, List.length_nil, Nat.add_zero, htext,
    List.isEmpty_nil, Bool.and_self, if_true, hword]

theorem readToken_point (s : List Char) : readToken '.' s = .ok ⟨.mark .dot, ['.'], s⟩ := rfl

theorem Legible.tail (h : Legible (s :: rest)) : Legible rest :=
  ⟨h.apart.tail, fun t ht => h.bounded t (List.mem_cons_of_mem _ ht)⟩

/-- No digit stands behind the point that follows a position. -/
theorem Legible.startsWithDigit_pointed (h : Legible (s :: rest)) (hs : isPosition s = true)
    (hrest : ∀ t ∈ rest, isSegment t = true) :
    startsWithDigit ((pointed rest).drop 1) = false := by
  cases rest with
  | nil => rfl
  | cons t rest =>
    have hnot : isPosition t = false := (List.isChain_cons_cons.mp h.apart).1 hs
    have hident : isIdentifier t = true := by
      have hsegment := hrest t List.mem_cons_self
      rwa [isSegment, hnot, Bool.or_false] at hsegment
    cases t with
    | nil => cases hident
    | cons c t => exact not_isAsciiDigit_of_isIdentStart (Bool.and_eq_true .. |>.mp hident).1

/-- A segment behind its point is one token, which names the member. -/
theorem exists_memberToken (h : Legible (s :: rest)) (hs : isSegment s = true)
    (hrest : ∀ t ∈ rest, isSegment t = true) :
    ∃ c tail token, s = c :: tail ∧ isBlank c = false ∧
      readToken c (tail ++ pointed rest) = .ok ⟨token, s, pointed rest⟩ ∧
      MemberName token (memberKey s) := by
  have hall := all_isIdentPart_of_isSegment hs
  cases hposition : isPosition s with
  | true =>
    obtain ⟨c, tail, rfl, -, -⟩ := exists_cons_of_isPosition hposition
    have hbound := h.bounded _ List.mem_cons_self hposition
    have hread := readToken_position hposition hbound (h.startsWithDigit_pointed hposition hrest)
    refine ⟨c, tail, _, rfl, isBlank_of_isIdentPart (hall c List.mem_cons_self), hread, ?_⟩
    have hmax : Int64.maxValue.toInt = 2 ^ 63 - 1 := rfl
    have hvalue : (Int64.ofInt (digitsValue (c :: tail))).toInt = digitsValue (c :: tail) :=
      Int64.toInt_ofInt_of_le (by omega) (by omega)
    have hname : MemberName (.int (Int64.ofInt (digitsValue (c :: tail)))) _ :=
      .position _ (by omega)
    rw [hvalue] at hname
    rw [memberKey, if_pos hposition]
    exact hname
  | false =>
    have hident : isIdentifier s = true := by rwa [isSegment, hposition, Bool.or_false] at hs
    cases s with
    | nil => cases hident
    | cons c tail =>
      refine ⟨c, tail, _, rfl, isBlank_of_isIdentPart (hall c List.mem_cons_self),
        readToken_identifier hident rest, ?_⟩
      rw [memberKey, hposition]
      exact .name _

/-- The members of a path are read one by one, each as an operator behind the phrase before it. -/
theorem exists_lexemes (h : Legible rest) (hrest : ∀ t ∈ rest, isSegment t = true) (offset : Nat)
    (found : List Lexeme) :
    ∃ lexemes, tokensFrom offset found (pointed rest) = .ok (found.reverse ++ lexemes) ∧
      ∀ {inner k ts t}, Postfixed inner k ts t →
        Postfixed inner (k + rest.length) (ts ++ lexemes.map Lexeme.token) (members t rest) := by
  induction rest generalizing offset found with
  | nil =>
    refine ⟨[], ?_, fun ht => ?_⟩
    · rw [List.append_nil]
      exact tokensFrom_nil offset found
    · rw [List.map_nil, List.append_nil]
      exact ht
  | cons s rest ih =>
    have hs := hrest s List.mem_cons_self
    have htail : ∀ t ∈ rest, isSegment t = true := fun t ht => hrest t (List.mem_cons_of_mem _ ht)
    obtain ⟨c, tail, token, rfl, hblank, hread, hname⟩ := exists_memberToken h hs htail
    let point : Lexeme := ⟨.mark .dot, ['.'], offset⟩
    let name : Lexeme := ⟨token, c :: tail, offset + byteSize ['.']⟩
    obtain ⟨lexemes, htokens, hmembers⟩ := ih h.tail htail
      (offset + byteSize ['.'] + byteSize (c :: tail)) (name :: point :: found)
    refine ⟨point :: name :: lexemes, ?_, fun ht => ?_⟩
    · calc
        _ = tokensFrom (offset + byteSize ['.']) (point :: found) (c :: (tail ++ pointed rest)) :=
          tokensFrom_of_readToken offset found (by decide) (readToken_point _)
        _ = _ := tokensFrom_of_readToken _ _ hblank hread
        _ = _ := htokens
        _ = _ := by simp
    · have hmember := hmembers (.member ht (List.mem_cons_self ..) hname)
      rw [List.append_assoc, Nat.add_assoc, Nat.add_comm 1] at hmember
      exact hmember

end Tokens

end Stencil.Expr
