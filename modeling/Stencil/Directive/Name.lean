import Stencil.Markup.Tag

/-!
The attributes that are directives. Their names start with a prefix that can be chosen, and the case
of ASCII letters does not matter in them.
-/
namespace Stencil.Directive

open Text Markup

/-- The names of directive attributes: of guards, of loops, and the start of the names of bindings.
-/
structure Names where
  guard : List Char
  loop : List Char
  binding : List Char
  deriving DecidableEq, Repr

namespace Names

/-- The names under a prefix. -/
def ofPrefix (start : List Char) : Names :=
  ⟨start ++ "if".toList, start ++ "for".toList, start ++ "bind:".toList⟩

/-- The guard of a tag, which is the value of its first guard attribute. -/
def guard? (names : Names) (t : OpenTag) : Option (List Char) :=
  (t.find? names.guard).map fun a => a.value.getD []

/-- The name of the attribute that a binding sets. -/
def target? (names : Names) (a : Attr) : Option (List Char) :=
  let start := a.name.take names.binding.length
  let target := a.name.drop names.binding.length
  if eqIgnoringCase start names.binding && !target.isEmpty then some target else none

end Names

end Stencil.Directive
