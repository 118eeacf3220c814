import Stencil.Text.Class
import Stencil.Text.Table.CaseMap
import Stencil.Text.Table.Cased

/-!
Upper and lower case of text by the full mappings of the Unicode standard: one character may become
several. The only mapping that looks at its surroundings is the capital sigma, which has a form of
its own at the end of a word.
-/
namespace Stencil.Text

namespace Table.Shift

def covers (s : Shift) (n : Nat) : Bool :=
  s.first ≤ n && n ≤ s.last && (n - s.first) % s.step == 0

def apply (s : Shift) (n : Nat) : Nat := (n + s.offset).toNat

end Table.Shift

/-- The mapping of one code point: an expansion if there is one, else a shift, else itself. -/
private def mapCase (expansions : List (Nat × List Nat)) (shifts : List Table.Shift) (c : Char) :
    List Char :=
  match expansions.lookup c.toNat with
  | some ns => ns.map Char.ofNat
  | none =>
    match shifts.find? (·.covers c.toNat) with
    | some s => [Char.ofNat (s.apply c.toNat)]
    | none => [c]

/-- The lower-case form of one character, whatever surrounds it. -/
def lowerChar (c : Char) : List Char :=
  if c.toNat < 0x80 then [asciiLower c] else mapCase Table.lowerExpansions Table.lowerShifts c

/-- The upper-case form of one character. -/
def upperChar (c : Char) : List Char :=
  if c.toNat < 0x80 then [if 'a' ≤ c && c ≤ 'z' then Char.ofNat (c.toNat - 32) else c]
  else mapCase Table.upperExpansions Table.upperShifts c

def isCased (c : Char) : Bool := inRanges Table.cased c.toNat

def isCaseIgnorable (c : Char) : Bool := inRanges Table.caseIgnorable c.toNat

/-- Whether the first character that counts is cased. -/
def meetsCased (s : List Char) : Bool :=
  match s.dropWhile isCaseIgnorable with
  | [] => false
  | c :: _ => isCased c

/-- Lower case with what stands before, nearest first, in hand and the result reversed. -/
private def lowerFrom (before done : List Char) : List Char → List Char
  | [] => done.reverse
  | c :: rest =>
    let mapped :=
      if c == 'Σ' then [if meetsCased before && !meetsCased rest then 'ς' else 'σ'] else lowerChar c
    lowerFrom (c :: before) (mapped.reverse ++ done) rest

/-- Lower case of a text. A capital sigma that ends its word becomes a final sigma. -/
def lower (s : List Char) : List Char := lowerFrom [] [] s

private theorem lowerFrom_eq_append {s : List Char} (h : ∀ c ∈ s, c ≠ 'Σ' ∧ lowerChar c = [c])
    (before done : List Char) : lowerFrom before done s = done.reverse ++ s := by
  induction s generalizing before done with
  | nil => simp [lowerFrom]
  | cons c s ih =>
    obtain ⟨⟨hsigma, hlower⟩, hrest⟩ := List.forall_mem_cons.mp h
    simp [lowerFrom, hsigma, hlower, ih hrest]

/-- Text in lower case stays as it is. -/
theorem lower_eq_self {s : List Char} (h : ∀ c ∈ s, c ≠ 'Σ' ∧ lowerChar c = [c]) :
    lower s = s :=
  lowerFrom_eq_append h [] []

/-- Upper case of a text. -/
def upper (s : List Char) : List Char := s.flatMap upperChar

end Stencil.Text
