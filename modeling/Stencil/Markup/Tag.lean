import Stencil.Text.Blank
import Stencil.Text.Class

/-!
Opening tags. A tag keeps the source of each of its parts in order, so that it can be written again
with some attributes left out or replaced and everything else as it was.
-/
namespace Stencil.Markup

open Text

/-- An attribute. Its source starts with the blanks in front of the name; an attribute without an
equals sign has no value. -/
structure Attr where
  name : List Char
  value : Option (List Char)
  source : List Char
  deriving DecidableEq, Repr

/-- What stands between the name and the end of a tag: attributes, and characters that belong to
none, with the blanks in front of them. -/
inductive Part where
  | attr (a : Attr)
  | stray (source : List Char)
  deriving DecidableEq, Repr

/-- An opening tag. Its tail is what follows the last part: blanks and the characters that end the
tag. -/
structure OpenTag where
  name : List Char
  parts : List Part
  tail : List Char
  selfClosing : Bool
  deriving DecidableEq, Repr

/-- Whether the attribute has this name, up to the case of ASCII letters. -/
def Attr.isNamed (a : Attr) (name : List Char) : Bool := eqIgnoringCase a.name name

/-- The blanks at the start of the source. -/
def Attr.indent (a : Attr) : List Char := a.source.takeWhile isBlank

def Part.source : Part → List Char
  | .attr a => a.source
  | .stray source => source

def Part.attr? : Part → Option Attr
  | .attr a => some a
  | .stray _ => none

/-- Names of elements that never have content. -/
def voidNames : List (List Char) :=
  ["area".toList, "base".toList, "br".toList, "col".toList, "embed".toList, "hr".toList,
   "img".toList, "input".toList, "link".toList, "meta".toList, "param".toList,
   "source".toList, "track".toList, "wbr".toList]

/-- What becomes of an attribute when its tag is written again. -/
inductive Edit where
  | keep
  | drop
  | replace (text : List Char)
  deriving DecidableEq, Repr

/-- The text of an attribute after an edit. A replacement stands behind the same blanks. -/
def Edit.apply (a : Attr) : Edit → List Char
  | .keep => a.source
  | .drop => []
  | .replace text => a.indent ++ text

/-- The text of a part when its attribute is edited. -/
def Part.edited {ε : Type} (edit : Attr → Except ε Edit) : Part → Except ε (List Char)
  | .attr a => do return (← edit a).apply a
  | .stray source => .ok source

namespace OpenTag

def source (t : OpenTag) : List Char := '<' :: t.name ++ t.parts.flatMap Part.source ++ t.tail

def attrs (t : OpenTag) : List Attr := t.parts.filterMap Part.attr?

/-- The first attribute of a name. -/
def find? (t : OpenTag) (name : List Char) : Option Attr := t.attrs.find? (·.isNamed name)

/-- Whether the tag opens no content. -/
def isEmptyElement (t : OpenTag) : Bool := t.selfClosing || voidNames.any (eqIgnoringCase t.name)

/-- The text of the tag after an edit of every attribute, from left to right. -/
def rebuild {ε : Type} (t : OpenTag) (edit : Attr → Except ε Edit) : Except ε (List Char) := do
  let texts ← t.parts.mapM (Part.edited edit)
  return '<' :: t.name ++ texts.flatten ++ t.tail

end OpenTag

theorem mapM_edited_keep {ε : Type} (parts : List Part) :
    (parts.mapM (Part.edited fun _ => .ok .keep) : Except ε (List (List Char))) =
      .ok (parts.map Part.source) := by
  induction parts with
  | nil => rfl
  | cons p parts ih =>
    rw [List.mapM_cons, ih]
    cases p <;> rfl

/-- A tag of which every attribute is kept is written as it was. -/
theorem OpenTag.rebuild_keep {ε : Type} (t : OpenTag) :
    (t.rebuild fun _ => .ok .keep : Except ε (List Char)) = .ok t.source := by
  rw [rebuild, mapM_edited_keep, source, List.flatMap_def]
  rfl

end Stencil.Markup
