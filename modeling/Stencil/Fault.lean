/-!
Two ways in which a computation can end without a result. An error is reported to whoever asked, who
may go on without the result; an abort ends everything up to the outermost caller.
-/
namespace Stencil

inductive Fault (ε : Type) where
  | error (cause : ε)
  | abort (text : Option String)
  deriving DecidableEq, Repr

namespace Fault

variable {ε δ : Type}

def map (f : ε → δ) : Fault ε → Fault δ
  | .error cause => .error (f cause)
  | .abort text => .abort text

end Fault

/-- Whether a result came without an abort, as an ordinary result or error. -/
def settled {ε α : Type} : Except (Fault ε) α → Except (Option String) (Except ε α)
  | .ok a => .ok (.ok a)
  | .error (.error cause) => .ok (.error cause)
  | .error (.abort text) => .error text

end Stencil
