import Stencil.Directive.Name

/-!
Loop headers: `item in collection` and `(item, key) in collection`. An attribute with the name of a
loop whose value is no header is an attribute like any other.
-/
namespace Stencil.Directive

open Text Markup

structure LoopHeader where
  item : List Char
  key : Option (List Char)
  collection : List Char
  deriving DecidableEq, Repr

namespace LoopHeader

def isNameStart (c : Char) : Bool := isAsciiLetter c || c == '_' || c == '$'

def isNamePart (c : Char) : Bool := isWord c || c == '$'

/-- Reads the name of a variable behind blanks. -/
def readName (s : List Char) : Option (List Char × List Char) :=
  match trimStart s with
  | [] => none
  | c :: s =>
    if isNameStart c then some (c :: s.takeWhile isNamePart, s.dropWhile isNamePart) else none

/-- Reads one character behind blanks. -/
def readMark (mark : Char) (s : List Char) : Option (List Char) :=
  match trimStart s with
  | [] => none
  | c :: s => if c == mark then some s else none

/-- Reads one variable, or two in parentheses. -/
def readVariables (s : List Char) : Option (List Char × Option (List Char) × List Char) :=
  match readMark '(' s with
  | some s => do
    let (item, s) ← readName s
    let (key, s) ← readName (← readMark ',' s)
    return (item, some key, ← readMark ')' s)
  | none => do
    let (item, s) ← readName s
    return (item, none, s)

/-- Reads the collection to the end of the text. It is what follows the blanks; where nothing
follows them, the last of at least two blanks is the collection. -/
def readCollection (s : List Char) : Option (List Char) :=
  let blanks := s.takeWhile isBlank
  let rest := trim s
  if blanks.isEmpty then none
  else if !rest.isEmpty then some rest
  else if 2 ≤ blanks.length then blanks.getLast?.map fun c => [c]
  else none

/-- The header that a text is. -/
def parse (s : List Char) : Option LoopHeader := do
  let (item, key, s) ← readVariables s
  if (s.takeWhile isBlank).isEmpty then none
  match trimStart s with
  | 'i' :: 'n' :: s => return ⟨item, key, ← readCollection s⟩
  | _ => none

end LoopHeader

namespace Names

/-- The header of a loop attribute. -/
def header? (names : Names) (a : Attr) : Option LoopHeader :=
  if a.isNamed names.loop then a.value.bind LoopHeader.parse else none

/-- The first loop header of a tag. -/
def loop? (names : Names) (t : OpenTag) : Option LoopHeader := t.attrs.findSome? names.header?

end Names

end Stencil.Directive
