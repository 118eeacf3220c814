import Stencil.Config.Basic
import Stencil.Value.Reader

/-!
Reading settings from the data format: an object, in which settings that are missing keep their
defaults and names that mean no setting are passed over, or a list of settings in their order. What
is passed over has to be well formed, but may nest to any depth and hold numbers of any size.
-/
namespace Stencil.Config

open Text Value

/-- Passes the rest of a string. -/
def skipString : List Char → Option (List Char)
  | [] => none
  | '"' :: s => some s
  | '\\' :: 'u' :: a :: b :: c :: d :: s =>
    if [a, b, c, d].all fun x => (hexValue? x).isSome then skipString s else none
  | '\\' :: c :: s => if "\"\\/bfnrt".toList.contains c then skipString s else none
  | c :: s => if c.toNat < 0x20 then none else skipString s

/-- Passes at least one digit. -/
def skipDigits (s : List Char) : Option (List Char) :=
  if startsWithDigit s then some (s.dropWhile isAsciiDigit) else none

/-- Passes the digits of a whole number; only zero starts with a zero. -/
def skipWhole : List Char → Option (List Char)
  | '0' :: s => if startsWithDigit s then none else some s
  | s => skipDigits s

def skipFraction : List Char → Option (List Char)
  | '.' :: s => skipDigits s
  | s => some s

def skipSign : List Char → List Char
  | '+' :: s => s
  | '-' :: s => s
  | s => s

def skipExponent : List Char → Option (List Char)
  | 'e' :: s => skipDigits (skipSign s)
  | 'E' :: s => skipDigits (skipSign s)
  | s => some s

/-- Passes a number behind its sign. -/
def skipNumber (s : List Char) : Option (List Char) := do
  skipExponent (← skipFraction (← skipWhole s))

/-- Passes the items after the first one, at most `n` of them, and the closing character. -/
def skipItems (item : List Char → Option (List Char)) (close : Char) :
    Nat → List Char → Option (List Char)
  | 0, _ => none
  | n + 1, s =>
    match skipBlanks s with
    | [] => none
    | c :: s =>
      if c == close then some s
      else if c == ',' then (item s).bind (skipItems item close n)
      else none

/-- Passes items in brackets behind the opening bracket, at most `bound` of them behind the first
one. -/
def skipGroup (item : List Char → Option (List Char)) (close : Char) (bound : Nat)
    (s : List Char) : Option (List Char) :=
  match skipBlanks s with
  | [] => none
  | c :: rest =>
    if c == close then some rest
    else (item (c :: rest)).bind (skipItems item close bound)

/-- Passes a name, a colon and an item. -/
def skipEntry (item : List Char → Option (List Char)) (s : List Char) : Option (List Char) :=
  match skipBlanks s with
  | '"' :: s => do
    match skipBlanks (← skipString s) with
    | ':' :: s => item s
    | _ => none
  | _ => none

/-- Passes a value that nests less than `n` deep. The length of the text is a bound on what its parts
hold. -/
def skipValue (bound : Nat) : Nat → List Char → Option (List Char)
  | 0, _ => none
  | n + 1, s =>
    match skipBlanks s with
    | [] => none
    | 'n' :: s => (readWord "ull".toList s).toOption
    | 't' :: s => (readWord "rue".toList s).toOption
    | 'f' :: s => (readWord "alse".toList s).toOption
    | '"' :: s => skipString s
    | '-' :: s => skipNumber s
    | '[' :: s => skipGroup (skipValue bound n) ']' bound s
    | '\x7b' :: s => skipGroup (skipEntry (skipValue bound n)) '\x7d' bound s
    | s => skipNumber s

/-- Sizes are less than this. -/
def sizeLimit : Nat := Nat.pow 2 64

/-- Reads a size, which is written without fraction and exponent. -/
def readSize (s : List Char) : Option (Nat × List Char) := do
  let s := skipBlanks s
  let rest ← skipWhole s
  let n ← Decimal.natural? (s.take (s.length - rest.length))
  match rest with
  | '.' :: _ => none
  | 'e' :: _ => none
  | 'E' :: _ => none
  | rest => if n < sizeLimit then some (n, rest) else none

def readFlag (s : List Char) : Option (Bool × List Char) :=
  match skipBlanks s with
  | 't' :: s => (readWord "rue".toList s).toOption.map fun s => (true, s)
  | 'f' :: s => (readWord "alse".toList s).toOption.map fun s => (false, s)
  | _ => none

/-- Reads a string behind blanks. -/
def readText (s : List Char) : Option (String × List Char) :=
  match skipBlanks s with
  | '"' :: s => (readString [] s).toOption.map fun r => (String.ofList r.1, r.2)
  | _ => none

/-- Reads a setting into a configuration. -/
def readField (c : Config) (s : List Char) : Field → Option (Config × List Char)
  | .directivePrefix => (readText s).map fun r => ({ c with directivePrefix := r.1 }, r.2)
  | .maxDepth => (readSize s).map fun r => ({ c with maxDepth := r.1 }, r.2)
  | .maxPasses => (readSize s).map fun r => ({ c with maxPasses := r.1 }, r.2)
  | .diagnostics => (readFlag s).map fun r => ({ c with diagnostics := r.1 }, r.2)

/-- What an object has given so far: a configuration, and the settings that it names. -/
structure Progress where
  config : Config
  given : List Field

/-- Reads a named setting. No setting may be named twice. A name that means no setting may stand for
a value of any depth up to `bound`, the length of the text. -/
def readEntry (bound : Nat) (p : Progress) (s : List Char) : Option (Progress × List Char) := do
  let (name, s) ← readText s
  match skipBlanks s with
  | ':' :: s =>
    match fields.find? fun f => f.name == name with
    | some f =>
      if p.given.contains f then none
      else (readField p.config s f).map fun r => (⟨r.1, f :: p.given⟩, r.2)
    | none => (skipValue bound (bound + 1) s).map fun s => (p, s)
  | _ => none

/-- Reads the entries after the first one, at most `n` of them. -/
def readEntries (bound : Nat) (p : Progress) : Nat → List Char → Option (Config × List Char)
  | 0, _ => none
  | n + 1, s =>
    match skipBlanks s with
    | '\x7d' :: s => some (p.config, s)
    | ',' :: s => do
      let (p, s) ← readEntry bound p s
      readEntries bound p n s
    | _ => none

/-- Reads an object behind its opening brace, in a text of the length `bound`. -/
def readObject (bound : Nat) (s : List Char) : Option (Config × List Char) :=
  match skipBlanks s with
  | '\x7d' :: s => some (default, s)
  | s => do
    let (p, s) ← readEntry bound ⟨default, []⟩ s
    readEntries bound p bound s

/-- Reads further settings in their order. -/
def readRest (c : Config) (s : List Char) : List Field → Option (Config × List Char)
  | [] =>
    match skipBlanks s with
    | ']' :: s => some (c, s)
    | _ => none
  | f :: fs =>
    match skipBlanks s with
    | ']' :: s => some (c, s)
    | ',' :: s => do
      let (c, s) ← readField c s f
      readRest c s fs
    | _ => none

/-- Reads a list of settings behind its opening bracket. -/
def readList (s : List Char) : Option (Config × List Char) :=
  match skipBlanks s, fields with
  | ']' :: s, _ => some (default, s)
  | s, f :: fs => do
    let (c, s) ← readField default s f
    readRest c s fs
  | _, [] => none

/-- The configuration that a text in the data format describes. -/
def ofJson? (text : String) : Option Config := do
  let s := text.toList
  let (c, rest) ←
    match skipBlanks s with
    | '\x7b' :: rest => readObject s.length rest
    | '[' :: rest => readList rest
    | _ => none
  if (skipBlanks rest).isEmpty then some c else none

end Stencil.Config
