import Stencil.Text.Table.Alphabetic
import Stencil.Text.Table.Numeric
import Stencil.Text.Table.WordMark

/-!
Character classes that names are made of: letters, numerals and word characters. The three differ
beyond ASCII: a superscript two is a numeral but no word character, a combining accent is a word
character but neither letter nor numeral.
-/
namespace Stencil.Text

/-- Membership in a table of closed ranges. -/
def inRanges (ranges : List (Nat × Nat)) (n : Nat) : Bool :=
  ranges.any fun r => r.1 ≤ n && n ≤ r.2

def isAsciiLetter (c : Char) : Bool := ('a' ≤ c && c ≤ 'z') || ('A' ≤ c && c ≤ 'Z')

def isAsciiDigit (c : Char) : Bool := '0' ≤ c && c ≤ '9'

def isAsciiAlphanumeric (c : Char) : Bool := isAsciiLetter c || isAsciiDigit c

/-- The Alphabetic property. -/
def isLetter (c : Char) : Bool :=
  if c.toNat < 0x80 then isAsciiLetter c else inRanges Table.alphabetic c.toNat

/-- The general categories Nd, Nl and No. -/
def isNumeral (c : Char) : Bool :=
  if c.toNat < 0x80 then isAsciiDigit c else inRanges Table.numeric c.toNat

def isAlphanumeric (c : Char) : Bool := isLetter c || isNumeral c

/-- Letters, marks, decimal digits, connector punctuation and the join controls. -/
def isWord (c : Char) : Bool :=
  if c.toNat < 0x80 then isAsciiAlphanumeric c || c == '_'
  else
    (inRanges Table.alphabetic c.toNat && !inRanges Table.recent c.toNat)
      || inRanges Table.wordMark c.toNat

/-- Maps `A` to `Z` to lower case and leaves every other character alone. -/
def asciiLower (c : Char) : Char := if 'A' ≤ c && c ≤ 'Z' then Char.ofNat (c.toNat + 32) else c

/-- Equality up to the case of ASCII letters. -/
def eqIgnoringCase (s t : List Char) : Bool := s.map asciiLower == t.map asciiLower

end Stencil.Text
