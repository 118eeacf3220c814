import Stencil.Library.Arithmetic
import Stencil.Library.Chance
import Stencil.Library.Conversion
import Stencil.Library.Dates
import Stencil.Library.Format
import Stencil.Library.Identifier
import Stencil.Library.Object
import Stencil.Library.Sequence
import Stencil.Library.Strings

/-!
The helpers of the library all together.
-/
namespace Stencil.Library

/-- The helpers of the library that never abort, by the names they are called by. -/
def builtins (env : Surroundings) : List (String × Builtin) :=
  Strings.helpers ++ Arithmetic.helpers ++ Format.helpers ++ Sequence.helpers ++
    Object.helpers ++ Dates.helpers env ++ Conversion.helpers ++ Chance.helpers env ++
    Identifier.helpers

/-- All helpers of the library by the names they are called by. -/
def helpers (env : Surroundings) : List (String × Helper) :=
  ("substr", Strings.substr) :: ("sort", Sequence.sort) ::
    (builtins env).map fun h => (h.1, h.2.toHelper)

/-- The registry of the library. -/
def registry (env : Surroundings) : Registry := ⟨helpers env⟩

end Stencil.Library
