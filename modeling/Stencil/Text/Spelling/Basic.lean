import Stencil.Text.Spelling.Alphabets
import Stencil.Text.Spelling.Forms
import Stencil.Text.Spelling.HanFifth
import Stencil.Text.Spelling.HanFirst
import Stencil.Text.Spelling.HanForms
import Stencil.Text.Spelling.HanFourth
import Stencil.Text.Spelling.HanRare
import Stencil.Text.Spelling.HanSecond
import Stencil.Text.Spelling.HanThird
import Stencil.Text.Spelling.Hangul
import Stencil.Text.Spelling.Kana
import Stencil.Text.Spelling.Pictures
import Stencil.Text.Spelling.Scripts
import Stencil.Text.Spelling.Symbols
import Stencil.Text.Spelling.Syllables

/-!
Spellings of characters in ASCII. A row of a table holds the spellings of sixteen successive
characters with blanks between them. Within a spelling a low line stands for a blank; a question
mark alone, or nothing where the row has ended, says that the character has no spelling.
-/
namespace Stencil.Text.Spelling

/-- Whether a code point is one of the Han characters, whose rows hold readings. -/
def isHan (code : Nat) : Bool :=
  (0x3400 ≤ code && code < 0x4dc0) || (0x4e00 ≤ code && code < 0xa000) ||
    (0xf900 ≤ code && code < 0xfb00)

/-- The rows that hold the spelling of a code point. -/
def rows (code : Nat) : List (Nat × String) :=
  if code < 0x2000 then alphabets
  else if code < 0x2e80 then symbols
  else if code < 0x3400 then kana
  else if code < 0x4e00 then hanRare
  else if code < 0x6000 then hanFirst
  else if code < 0x7000 then hanSecond
  else if code < 0x8000 then hanThird
  else if code < 0x9000 then hanFourth
  else if code < 0xa000 then hanFifth
  else if code < 0xe000 then syllables
  else if code < 0xfb00 then hanForms
  else if code < 0x10000 then forms
  else if code < 0x1f000 then scripts
  else pictures

/-- What a row holds for a code point. -/
def word? (code : Nat) : Option (List Char) := do
  let row ← (rows code).lookup (code / 16)
  let word ← (row.toList.splitOn ' ')[code % 16]?
  if word == ['?'] then none else some word

/-- A reading with a capital is a word of its own, and a blank follows it. -/
def reading (word : List Char) : List Char :=
  if word.head?.any Char.isUpper then word ++ [' '] else word

/-- A spelling with its blanks. -/
def spelled (word : List Char) : List Char := word.map fun c => if c == '_' then ' ' else c

/-- The spelling of a code point beyond ASCII. -/
def ofCode? (code : Nat) : Option (List Char) :=
  if Hangul.base ≤ code && code < Hangul.base + Hangul.count then
    some (Hangul.romanize (code - Hangul.base))
  else if isHan code then (word? code).map reading
  else (word? code).map spelled

end Stencil.Text.Spelling
