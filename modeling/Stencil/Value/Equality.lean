import Stencil.Value.Basic

/-!
Equality of values. Numbers are equal if they compare as equal, maps if they give the same names the
same values in any order, functions if they have one handle; the value that is not a number differs
from itself.
-/
namespace Stencil.Value

mutual

def beq : Value → Value → Bool
  | .null, .null => true
  | .bool a, .bool b => a == b
  | .number a, .number b => a == b
  | .string a, .string b => a == b
  | .seq a, .seq b => beqItems a b
  | .map a, .map b => a.length == b.length && entriesWithin a b
  | .function a, .function b => a == b
  | _, _ => false

/-- Equality item by item. -/
def beqItems : List Value → List Value → Bool
  | [], [] => true
  | a :: as, b :: bs => beq a b && beqItems as bs
  | _, _ => false

/-- Whether the second list gives every name of the first an equal value. -/
def entriesWithin : List (String × Value) → List (String × Value) → Bool
  | [], _ => true
  | (name, a) :: rest, other =>
    (match Record.get? other name with
      | some b => beq a b
      | none => false) && entriesWithin rest other

end

instance : BEq Value := ⟨beq⟩

end Stencil.Value
