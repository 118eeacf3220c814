/-!
Hexadecimal digits in lower case.
-/
namespace Stencil.Text

def hexDigit (n : Nat) : Char :=
  if n < 10 then Char.ofNat ('0'.toNat + n) else Char.ofNat ('a'.toNat + (n - 10))

end Stencil.Text
