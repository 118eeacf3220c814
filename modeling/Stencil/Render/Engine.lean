import Stencil.Render.Pass
import Stencil.Value.Reader

/-!
Rendering templates. Passes are repeated until one changes nothing; then the expressions that are
left in the text are replaced by their values. Directive elements nest up to a limit, and the number
of passes that change a text is limited, too.
-/
namespace Stencil.Engine

open Render

/-- Repeats a pass until it changes nothing; `left` more passes may change the text. -/
def settle (e : Engine) (pass : List Char → RenderResult (List Char)) :
    Nat → List Char → RenderResult (List Char)
  | left, s => do
    let next ← pass s
    if next == s then return s
    else
      match left with
      | 0 => .error (.error (.noFixedPoint (max e.config.maxPasses 1)))
      | left + 1 => e.settle pass left next

/-- Renders a text inside which directive elements may nest one less than `levels` deep. -/
def renderWithin (e : Engine) : Nat → Renderer
  | 0 => fun _ _ => .error (.error (.depthExceeded e.config.maxDepth))
  | levels + 1 => fun scope s => do
    let settled ← e.settle (e.pass (e.renderWithin levels) scope) (max e.config.maxPasses 1) s
    e.interpolated scope settled

/-- The output of a template, or what ended the rendering. -/
def tryRender (e : Engine) (scope : Scope) (template : String) : RenderResult String := do
  let text ← e.renderWithin (e.config.maxDepth + 1) scope template.toList
  return String.ofList text

/-- The output of a template. What ends the rendering shows as a comment or not at all. -/
def render (e : Engine) (scope : Scope) (template : String) : String :=
  match e.tryRender scope template with
  | .ok text => text
  | .error f => if e.config.diagnostics then diagnostic f else ""

/-- The scope that a value makes up; only a map binds anything. -/
def scopeOf : Value → Scope
  | .map entries => Scope.root entries
  | _ => Scope.empty

/-- The output of a template for data in the data format. -/
def renderData (e : Engine) (template data : String) : Except Value.ReadError String := do
  return e.render (scopeOf (← Value.ofJson data)) template

end Stencil.Engine
