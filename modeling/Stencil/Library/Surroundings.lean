import Stencil.Calendar.Moment

/-!
What helpers know of the world outside their arguments. It is handed in, so that a helper is a
function like any other.
-/
namespace Stencil.Library

/-- What the outside world contributes: the time and a source of chance. -/
structure Surroundings where
  now : Calendar.DateTime
  chance : Nat

end Stencil.Library
