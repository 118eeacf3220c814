import Stencil.Library.Argument
import Stencil.Text.Case
import Stencil.Text.Search

/-!
Helpers on text: case, trimming, cutting out, searching, joining, padding and escaping. Positions
count characters. Every value can be given where a text is wanted.
-/
namespace Stencil.Library.Strings

open Text

/-- The characters of an argument's text. -/
def charsArg (args : List Value) (i : Nat) : List Char := (textArg args i).toList

def upper : Builtin := fun args => do
  checkArity (.exactly 1) args
  return .ofChars (Text.upper (charsArg args 0))

def lower : Builtin := fun args => do
  checkArity (.exactly 1) args
  return .ofChars (Text.lower (charsArg args 0))

/-- The first character in upper case and the rest in lower case, character by character. -/
def capitalize : Builtin := fun args => do
  checkArity (.exactly 1) args
  match charsArg args 0 with
  | [] => return .string ""
  | c :: rest => return .ofChars (upperChar c ++ rest.flatMap lowerChar)

/-- Upper case behind a character that is no letter and lower case behind a letter; the result is
built last character first. -/
def titleFrom (afterLetter : Bool) (done : List Char) : List Char → List Char
  | [] => done.reverse
  | c :: rest =>
    titleFrom (isLetter c) ((if afterLetter then lowerChar c else upperChar c).reverse ++ done) rest

def title : Builtin := fun args => do
  checkArity (.exactly 1) args
  return .ofChars (titleFrom false [] (charsArg args 0))

/-- The characters that trimming drops: those of the second argument, or blanks. -/
def trimSet (args : List Value) : Char → Bool :=
  match arg args 1 with
  | .null => isBlank
  | v => v.text.toList.contains

def trim : Builtin := fun args => do
  checkArity (.between 1 2) args
  let p := trimSet args
  return .ofChars (dropEndWhile p ((charsArg args 0).dropWhile p))

def trimLeft : Builtin := fun args => do
  checkArity (.between 1 2) args
  return .ofChars ((charsArg args 0).dropWhile (trimSet args))

def trimRight : Builtin := fun args => do
  checkArity (.between 1 2) args
  return .ofChars (dropEndWhile (trimSet args) (charsArg args 0))

/-- A sum, or the greatest or the least integer in the place of one that does not fit. -/
def saturatingAdd (a b : Int64) : Int64 := Int64.ofIntClamp (a.toInt + b.toInt)

/-- The start of a part of a text of some length: below zero it counts from the end, and it is moved
into the text where it is outside. -/
def partStart (start length : Int64) : Int64 :=
  if start < 0 then max (length + start) 0 else min start length

/-- The end of a part from `start` on: a count of zero takes the rest, and a count below zero leaves
that many characters out at the end. -/
def partEnd (start count length : Int64) : Int64 :=
  if count = 0 then length
  else if count < 0 then max (length + count) start
  else min (saturatingAdd start count) length

/-- What cutting a part out of a list says when the positions are no positions of a part of it. -/
def outOfRange (start stop length : Nat) : String :=
  if start ≤ stop then s!"range end index {stop} out of range for slice of length {length}"
  else s!"slice index starts at {start} but ends at {stop}"

/-- The part of a list between two positions; there is none unless they are in order and within the
list. -/
def cutOut {α : Type} (items : List α) (start stop : Nat) : Except (Fault HelperError) (List α) :=
  if start ≤ stop ∧ stop ≤ items.length then .ok ((items.take stop).drop start)
  else throw (.abort (some (outOfRange start stop items.length)))

/-- The text that a part is asked of, and the positions of the part. -/
def partArgs (args : List Value) : Except HelperError (List Char × Int64 × Int64) := do
  checkArity (.between 2 3) args
  let s := charsArg args 0
  let length := Int64.ofNat s.length
  let start := partStart (← intArg args 1 0) length
  let stop := partEnd start (← intArg args 2 0) length
  return (s, start, max stop start)

/-- The part of a text from a start, with a count of characters. -/
def substr : Helper := fun args => do
  let (s, start, stop) ← (partArgs args).mapError .error
  return .ofChars (← cutOut s start.toUInt64.toNat stop.toUInt64.toNat)

def replace : Builtin := fun args => do
  checkArity (.exactly 3) args
  let part := charsArg args 1
  if h : part = [] then return .string (textArg args 0)
  else return .ofChars (replaceAll part h (charsArg args 2) (charsArg args 0))

/-- The pieces between separators, or the words if there is no separator. -/
def split : Builtin := fun args => do
  checkArity (.between 1 2) args
  match arg args 1 with
  | .null => return .seq ((words isBlank (charsArg args 0)).map .ofChars)
  | sep =>
    if h : sep.text.toList = [] then complain .emptySeparator
    else return .seq ((splitOn sep.text.toList h (charsArg args 0)).map .ofChars)

/-- The items of a sequence, or the names of a map, with a separator between them. -/
def join : Builtin := fun args => do
  checkArity (.between 1 2) args
  let separator := textArg args 1
  match arg args 0 with
  | .seq items => return .string (separator.intercalate (items.map Value.text))
  | .map entries => return .string (separator.intercalate (Record.names entries))
  | v => return .string v.text

def concat : Builtin := fun args =>
  .ok (.string (String.join (args.map Value.text)))

/-- The character that padding fills up with. -/
def fillArg (args : List Value) : Except HelperError Char :=
  match arg args 2 with
  | .null => .ok ' '
  | v =>
    match v.text.toList with
    | [c] => .ok c
    | _ => complain .fillNotOneCharacter

/-- A text and what is missing to its width. -/
def padding (args : List Value) : Except HelperError (List Char × List Char) := do
  checkArity (.between 2 3) args
  let s := charsArg args 0
  let width := min (← intArg args 1 0).toInt.toNat sizeLimit
  return (s, List.replicate (width - s.length) (← fillArg args))

def padLeft : Builtin := fun args => do
  let (s, fill) ← padding args
  return .ofChars (fill ++ s)

def padRight : Builtin := fun args => do
  let (s, fill) ← padding args
  return .ofChars (s ++ fill)

/-- A text several times over, or a sequence of one value several times. -/
def repeated : Builtin := fun args => do
  checkArity (.exactly 2) args
  let times := (← intArg args 1 0).toInt.toNat
  match arg args 0 with
  | .string s =>
    if s.length * times > sizeLimit then complain .resultTooLarge
    else if s.isEmpty then return .string ""
    else return .ofChars (List.replicate times s.toList).flatten
  | v =>
    if times > sizeLimit then complain .resultTooLarge
    else return .seq (List.replicate times v)

/-- Breaks of lines as elements. -/
def breakLines : Builtin := fun args => do
  checkArity (.exactly 1) args
  return .ofChars ((charsArg args 0).flatMap fun c => if c == '\n' then "<br>".toList else [c])

/-- A character that stands for itself in markup. -/
def escapeMarkup (c : Char) : List Char :=
  match c with
  | '&' => "&amp;".toList
  | '<' => "&lt;".toList
  | '>' => "&gt;".toList
  | '"' => "&quot;".toList
  | '\'' => "&#39;".toList
  | c => [c]

def escape : Builtin := fun args => do
  checkArity (.exactly 1) args
  return .ofChars ((charsArg args 0).flatMap escapeMarkup)

/-- The helpers of this module that never abort, and the names they are called by. -/
def helpers : List (String × Builtin) :=
  [("upper", upper), ("lower", lower), ("capitalize", capitalize), ("title", title),
   ("trim", trim), ("ltrim", trimLeft), ("rtrim", trimRight), ("replace", replace),
   ("split", split), ("join", join), ("concat", concat), ("pad", padRight), ("pad_left", padLeft),
   ("pad_right", padRight), ("repeat", repeated), ("nl2br", breakLines), ("escape", escape)]

end Stencil.Library.Strings
