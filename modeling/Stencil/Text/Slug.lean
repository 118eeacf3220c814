import Stencil.Text.Blank
import Stencil.Text.Case
import Stencil.Text.Spelling.Basic

/-!
Slugs: text in small ASCII letters and digits with single hyphens between the runs. Characters
beyond ASCII are spelled in ASCII first.
-/
namespace Stencil.Text

/-- What stands for a character that has no spelling. -/
def unspelled : List Char := "[?]".toList

/-- The spelling of a character in ASCII: a printable ASCII character stands for itself, an ASCII
control for nothing. -/
def spell (c : Char) : List Char :=
  if c.toNat < 0x20 || c.toNat == 0x7f then []
  else if c.toNat < 0x80 then [c]
  else (Spelling.ofCode? c.toNat).getD unspelled

/-- Whether a character stands for itself at the head of a text. -/
def isPlain (c : Char) : Bool := c.toNat < 0x7f

/-- A text in ASCII. What stands before the first character to be spelled is kept as it is, with
its controls; from there on every character is spelled. -/
def transliterate (s : List Char) : List Char :=
  s.takeWhile isPlain ++ (s.dropWhile isPlain).flatMap spell

def isSlugChar (c : Char) : Bool := ('a' ≤ c && c ≤ 'z') || isAsciiDigit c

/-- Puts a character in front of a text with hyphens: itself, or a hyphen that stands for it and for
the rest of its run. -/
def addToSlug (c : Char) (rest : List Char) : List Char :=
  if isSlugChar c then c :: rest
  else if rest.head? = some '-' then rest
  else '-' :: rest

/-- A text with one hyphen in the place of every run of characters that no slug has. -/
def hyphenate (s : List Char) : List Char := s.foldr addToSlug []

def trimHyphens (s : List Char) : List Char :=
  dropEndWhile (· == '-') (s.dropWhile (· == '-'))

/-- The slug of a text, with a way to spell text in ASCII. -/
def slugBy (spelled : List Char → List Char) (s : List Char) : List Char :=
  trimHyphens (hyphenate (lower (spelled s)))

end Stencil.Text
