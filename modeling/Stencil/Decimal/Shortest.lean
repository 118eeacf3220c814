import Stencil.Decimal.Binary64

/-!
The fewest decimal digits that name a floating-point number: of all decimals that are rounded to the
number, those on the coarsest grid of powers of ten, and of these the nearest. Everything is decided
exactly, by comparing whole multiples of a common unit.
-/
namespace Stencil.Decimal

/-- The quantity `digits * 10 ^ exponent`. -/
structure Numeral where
  digits : Nat
  exponent : Int
  deriving DecidableEq, Repr

/-- What is done with a quantity half-way between two candidates. -/
inductive Tie where
  | toEven
  | up
  deriving DecidableEq, Repr

/-- The quantities that are rounded to one number, in quarters of its last binary place. -/
structure Interval where
  low : Nat
  middle : Nat
  high : Nat
  closed : Bool

/-- Half a place on both sides, but a quarter below a power of two, where the places get finer. -/
def Interval.around (x : Dyadic) : Interval :=
  let finer := x.mantissa == significandSize && x.exponent > -1074
  ⟨4 * x.mantissa - (if finer then 1 else 2), 4 * x.mantissa, 4 * x.mantissa + 2,
    x.mantissa % 2 == 0⟩

/-- A multiple of `10 ^ k` in the interval around `x`, as the multiplier. -/
def gridPoint? (tie : Tie) (x : Dyadic) (k : Int) : Option Nat :=
  let i := Interval.around x
  let unit := Nat.pow 2 (x.exponent - 2).toNat * Nat.pow 10 (-k).toNat
  let step := Nat.pow 2 (2 - x.exponent).toNat * Nat.pow 10 k.toNat
  let inside (c : Nat) : Bool :=
    if i.closed then i.low * unit ≤ c * step && c * step ≤ i.high * unit
    else i.low * unit < c * step && c * step < i.high * unit
  let below := i.middle * unit / step
  let gap := i.middle * unit % step
  match inside below, inside (below + 1) with
  | false, false => none
  | true, false => some below
  | false, true => some (below + 1)
  | true, true =>
    if 2 * gap < step then some below
    else if step < 2 * gap then some (below + 1)
    else
      match tie with
      | .up => some (below + 1)
      | .toEven => some (below + below % 2)

/-- The exponent of a grid that holds the quantity itself. -/
def exactExponent (x : Dyadic) : Int := min x.exponent 0

/-- Tries the grids from `n` steps above the exact one down to it. -/
def shortestFrom (tie : Tie) (x : Dyadic) : Nat → Numeral
  | 0 =>
    ⟨x.inUnits (exactExponent x) * Nat.pow 5 (-exactExponent x).toNat, exactExponent x⟩
  | n + 1 =>
    match gridPoint? tie x (exactExponent x + (n + 1 : Nat)) with
    | some c => ⟨c, exactExponent x + (n + 1 : Nat)⟩
    | none => shortestFrom tie x n

/-- An exponent whose power of ten lies above the quantity: a binary place is less than 0.30103
decimal places. -/
def ceilingExponent (x : Dyadic) : Int :=
  ((x.mantissa.log2 + 1 : Int) + x.exponent) * 30103 / 100000 + 2

/-- The fewest digits that name the magnitude of `x`. -/
def shortest (tie : Tie) (x : Dyadic) : Numeral :=
  if x.mantissa = 0 then ⟨0, 0⟩
  else shortestFrom tie x (ceilingExponent x - exactExponent x).toNat

end Stencil.Decimal
