import Stencil.Fault
import Stencil.Helper.Error

/-!
Helpers: functions that expressions call by name. What a helper does depends on its arguments alone.
Helpers come from three places: the library, the caller's registrations, and function values, whose
meaning the host supplies for every handle.
-/
namespace Stencil

/-- A function that reports an error or gives a value, and may abort. -/
abbrev Helper := List Value → Except (Fault HelperError) Value

/-- A function that never aborts. -/
abbrev Builtin := List Value → Except HelperError Value

def Builtin.toHelper (f : Builtin) : Helper := fun args => (f args).mapError .error

/-- The meaning of every function value. -/
abbrev Host := Nat → Helper

/-- The helpers that can be called by name. -/
structure Registry where
  helpers : Record Helper

namespace Registry

def empty : Registry := ⟨[]⟩

def find? (r : Registry) (name : String) : Option Helper := Record.get? r.helpers name

/-- Adds a helper, in place of one of the same name. -/
def register (r : Registry) (name : String) (f : Helper) : Registry :=
  ⟨Record.insert name f r.helpers⟩

def contains (r : Registry) (name : String) : Bool := Record.contains r.helpers name

/-- The registered names in the order of their code points. -/
def names (r : Registry) : List String := (Record.names r.helpers).mergeSort (· ≤ ·)

def size (r : Registry) : Nat := r.helpers.length

def isEmpty (r : Registry) : Bool := r.helpers.isEmpty

end Registry

end Stencil
