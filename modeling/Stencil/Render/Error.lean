import Stencil.Fault
import Stencil.Decimal.Layout
import Stencil.Text.Dashes

/-!
The errors that end a rendering, and how they show in its output: as a comment that the wording of
the error cannot end.
-/
namespace Stencil.Render

inductive RenderError where
  | depthExceeded (limit : Nat)
  | noFixedPoint (passes : Nat)
  deriving DecidableEq, Repr

def RenderError.message : RenderError → String
  | .depthExceeded limit => s!"directive nesting exceeds maximum depth of {limit}"
  | .noFixedPoint passes => s!"template did not stabilize after {passes} passes"

/-- The result of rendering something. -/
abbrev RenderResult (α : Type) := Except (Fault RenderError) α

/-- The wording of whatever ended a rendering. -/
def faultMessage : Fault RenderError → String
  | .error e => e.message
  | .abort text => "panic during render: " ++ text.getD "unknown panic"

/-- The greatest number of characters of a message in a comment. -/
def messageLimit : Nat := 200

/-- The start of a message, marked if it is not all of it. -/
def shortened (s : List Char) : List Char :=
  if s.length ≤ messageLimit then s else s.take messageLimit ++ "...".toList

/-- A message in the form in which a comment can hold it. -/
def commentText (message : List Char) : List Char := Text.spaceDashes (shortened message)

/-- The comment in the place of an output. -/
def diagnostic (f : Fault RenderError) : String :=
  "<!-- Template Error: " ++ String.ofList (commentText (faultMessage f).toList) ++ " -->"

end Stencil.Render
