import Stencil.Value.Text
import Stencil.Decimal.Layout

/-!
The settings of a template engine and their written form.
-/
namespace Stencil

/-- The prefix of directive names, how deep directive elements may nest, how many passes may change
a text, and whether failures show in the output. -/
structure Config where
  directivePrefix : String
  maxDepth : Nat
  maxPasses : Nat
  diagnostics : Bool
  deriving DecidableEq, Repr

namespace Config

/-- The settings where none are given. -/
def default : Config := ⟨"", 64, 256, true⟩

instance : Inhabited Config := ⟨default⟩

def withDirectivePrefix (c : Config) (start : String) : Config :=
  { c with directivePrefix := start }

def withMaxDepth (c : Config) (depth : Nat) : Config := { c with maxDepth := depth }

/-- At least one pass is always allowed. -/
def withMaxPasses (c : Config) (passes : Nat) : Config := { c with maxPasses := max passes 1 }

def withDiagnostics (c : Config) (shown : Bool) : Config := { c with diagnostics := shown }

/-- The names of settings in the data format, in order. -/
inductive Field where
  | directivePrefix
  | maxDepth
  | maxPasses
  | diagnostics
  deriving DecidableEq, Repr

def Field.name : Field → String
  | .directivePrefix => "directive_prefix"
  | .maxDepth => "max_depth"
  | .maxPasses => "max_passes"
  | .diagnostics => "diagnostics"

def fields : List Field := [.directivePrefix, .maxDepth, .maxPasses, .diagnostics]

/-- The written form of a setting. -/
def fieldText (c : Config) : Field → String
  | .directivePrefix => Value.quoted c.directivePrefix
  | .maxDepth => Decimal.wholeText c.maxDepth
  | .maxPasses => Decimal.wholeText c.maxPasses
  | .diagnostics => if c.diagnostics then "true" else "false"

/-- All settings in the data format, on one line. -/
def json (c : Config) : String :=
  let entries := fields.map fun f => Value.quoted f.name ++ ":" ++ c.fieldText f
  "\x7b" ++ ",".intercalate entries ++ "\x7d"

end Config

end Stencil
