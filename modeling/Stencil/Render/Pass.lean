import Stencil.Config.Basic
import Stencil.Directive.LoopHeader
import Stencil.Directive.Span
import Stencil.Expr.Eval
import Stencil.Markup.Element
import Stencil.Render.Error

/-!
One pass over a text: its outermost loops are written out, then its outermost guarded elements are
kept or removed, then its bindings are resolved. What is inside a loop or a guarded element is
rendered on its own, by a renderer that is handed in.
-/
namespace Stencil

open Directive Markup Render

/-- A template engine: what expressions can call, and settings. -/
structure Engine where
  environment : Expr.Environment
  config : Config

/-- Renders a text in a scope. -/
abbrev Renderer := Scope → List Char → RenderResult (List Char)

namespace Engine

/-- The names of directives under the prefix of the settings. -/
def names (e : Engine) : Names := Names.ofPrefix e.config.directivePrefix.toList

/-- The value of an expression in a template. -/
def valueOf (e : Engine) (scope : Scope) (source : List Char) : RenderResult Value :=
  (Expr.evaluate e.environment scope (String.ofList source)).mapError .abort

/-- Whether a guard holds. -/
def holds (e : Engine) (scope : Scope) (guard : List Char) : RenderResult Bool := do
  return (← e.valueOf scope guard).isTruthy

/-- Writes the values of the expressions in a text. -/
def interpolated (e : Engine) (scope : Scope) (s : List Char) : RenderResult (List Char) :=
  interpolate (fun source => do return (← e.valueOf scope source).text.toList) s

/-- A quote would end the value of an attribute. -/
def escapeQuotes (s : List Char) : List Char :=
  s.flatMap fun c => if c == '"' then "&quot;".toList else [c]

/-- What becomes of an attribute: a binding sets its target, and null leaves nothing to set. -/
def bindingEdit (e : Engine) (scope : Scope) (a : Attr) : RenderResult Edit :=
  match e.names.target? a with
  | none => .ok .keep
  | some target => do
    match ← e.valueOf scope (a.value.getD []) with
    | .null => return .drop
    | v => return .replace (target ++ '=' :: '"' :: escapeQuotes v.text.toList ++ ['"'])

/-- A tag with its bindings resolved and without the attributes that `stripped` holds of. -/
def outputTag (e : Engine) (scope : Scope) (stripped : Attr → Bool) (t : OpenTag) :
    RenderResult (List Char) :=
  t.rebuild fun a => if stripped a then .ok .drop else e.bindingEdit scope a

def isGuard (e : Engine) (a : Attr) : Bool := a.isNamed e.names.guard

def isLoop (e : Engine) (a : Attr) : Bool := (e.names.header? a).isSome

/-- The items of a collection with their keys. -/
def entries? : Value → Option (List (Value × Value))
  | .seq items => some (items.zipIdx.map fun p => (p.1, .ofNat p.2))
  | .map entries => some (entries.map fun p => (p.2, .string p.1))
  | _ => none

/-- The scope of one turn of a loop. -/
def turnScope (scope : Scope) (header : LoopHeader) (item key : Value) : Scope :=
  let inner := scope.derive (String.ofList header.item) item
  match header.key with
  | some name => inner.insert (String.ofList name) key
  | none => inner

/-- The text of one turn of a loop; a guard on the element filters the turns. -/
def turn (e : Engine) (nested : Renderer) (el : Element) (scope : Scope) :
    RenderResult (List Char) := do
  let kept ←
    match e.names.guard? el.tag with
    | some guard => e.holds scope guard
    | none => .ok true
  if kept then
    let tag ← e.outputTag scope (fun a => e.isGuard a || e.isLoop a) el.tag
    let tag ← e.interpolated scope tag
    let inner ← nested scope el.inner
    return tag ++ inner ++ el.closing
  else return []

/-- An element with a loop is written once for every item; what has no items leaves nothing. -/
def loops (e : Engine) (nested : Renderer) (scope : Scope) :
    Replacement LoopHeader (Fault RenderError) where
  mark? := e.names.loop?
  replace header el := do
    match entries? (← e.valueOf scope header.collection) with
    | some entries =>
      let texts ← entries.mapM fun p => e.turn nested el (turnScope scope header p.1 p.2)
      return texts.flatten
    | none => return []
  unclosed _ := .ok .dropTag

/-- An element with a guard is written if the guard holds. What follows an element that is not
closed goes with it if the guard fails. -/
def conditionals (e : Engine) (nested : Renderer) (scope : Scope) :
    Replacement (List Char) (Fault RenderError) where
  mark? := e.names.guard?
  replace guard el := do
    if ← e.holds scope guard then
      let tag ← e.outputTag scope e.isGuard el.tag
      let inner ← nested scope el.inner
      return tag ++ inner ++ el.closing
    else return []
  unclosed guard := do
    if ← e.holds scope guard then return .dropTag else return .dropRest

/-- Resolves the bindings of all tags. -/
def bindings (e : Engine) (scope : Scope) (s : List Char) : RenderResult (List Char) :=
  replaceTags (e.outputTag scope fun _ => false) s

/-- One pass over a text. -/
def pass (e : Engine) (nested : Renderer) : Renderer := fun scope s => do
  let s ← (e.loops nested scope).apply s
  let s ← (e.conditionals nested scope).apply s
  e.bindings scope s

end Engine

end Stencil
