/-!
Romanization of Hangul syllables. A syllable is a leading consonant, a vowel and a trailing
consonant, and its place in the block of syllables counts them in this order.
-/
namespace Stencil.Text.Spelling.Hangul

def leading : List String :=
  ["g", "gg", "n", "d", "dd", "r", "m", "b", "bb", "s", "ss", "", "j", "jj", "c", "k", "t", "p", "h"]

def vowels : List String :=
  ["a", "ae", "ya", "yae", "eo", "e", "yeo", "ye", "o", "wa", "wae", "oe", "yo", "u", "weo", "we",
   "wi", "yu", "eu", "yi", "i"]

def trailing : List String :=
  ["", "g", "gg", "gs", "n", "nj", "nh", "d", "l", "lg", "lm", "lb", "ls", "lt", "lp", "lh", "m", "b",
   "bs", "s", "ss", "ng", "j", "c", "k", "t", "p", "h"]

/-- The first syllable. -/
def base : Nat := 0xac00

/-- How many syllables there are. -/
def count : Nat := leading.length * vowels.length * trailing.length

/-- The letters of the syllable at a place of the block. -/
def romanize (place : Nat) : List Char :=
  let part (table : List String) (i : Nat) := (table[i]?.getD "").toList
  part leading (place / (vowels.length * trailing.length)) ++
    part vowels (place / trailing.length % vowels.length) ++
      part trailing (place % trailing.length)

end Stencil.Text.Spelling.Hangul
