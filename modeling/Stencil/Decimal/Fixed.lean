import Stencil.Decimal.Layout

/-!
Fixed decimal places. The digits are those of the exact quantity, rounded once, a half to the even
neighbour.
-/
namespace Stencil.Decimal

/-- The whole number nearest to `num / den`; a half goes to the even one. -/
def roundDiv (num den : Nat) : Nat :=
  let q := num / den
  let r := num % den
  if 2 * r < den then q
  else if den < 2 * r then q + 1
  else q + q % 2

/-- The magnitude of `x` in units of `10 ^ -places`, rounded. -/
def scaled (places : Nat) (x : Dyadic) : Nat :=
  if x.exponent < 0 then roundDiv (x.mantissa * Nat.pow 10 places) (Nat.pow 2 (-x.exponent).toNat)
  else x.mantissa * Nat.pow 2 x.exponent.toNat * Nat.pow 10 places

/-- The magnitude of `x` with exactly `places` digits behind the point. -/
def fixedMagnitude (places : Nat) (x : Dyadic) : List Char :=
  let units := scaled places x
  let fraction := digitChars (units % Nat.pow 10 places)
  digitChars (units / Nat.pow 10 places) ++
    if places = 0 then [] else '.' :: zeros (places - fraction.length) ++ fraction

end Stencil.Decimal
