import Stencil.Library.Argument
import Stencil.Library.Surroundings
import Stencil.Text.Hex

/-!
Helpers whose result is left to chance. Chance comes from outside: the surroundings of a render hold
a number that all choices are drawn from, so that a helper stays a function of its arguments.
-/
namespace Stencil.Library.Chance

/-- The next number of a sequence that looks random. -/
def nextChance (n : Nat) : Nat := (n * 6364136223846793005 + 1442695040888963407) % Nat.pow 2 64

/-- Numbers below `limit`, drawn one after the other. -/
def draws (limit : Nat) : (count chance : Nat) → List Nat
  | 0, _ => []
  | count + 1, chance =>
    nextChance chance / Nat.pow 2 32 % limit :: draws limit count (nextChance chance)

/-- A number from zero up to one. -/
def random (env : Surroundings) : Builtin := fun args => do
  checkArity (.exactly 0) args
  return .float (Float.ofNat (nextChance env.chance / Nat.pow 2 32) / Float.ofNat (Nat.pow 2 32))

/-- An integer of a closed range. -/
def randomInt (env : Surroundings) : Builtin := fun args => do
  checkArity (.exactly 2) args
  let low ← intArg args 0 0
  let high ← intArg args 1 0
  if high.toInt < low.toInt then complain (.emptyRange low high)
  else
    let choice := nextChance env.chance % (high.toInt - low.toInt + 1).toNat
    return .number (.ofInt (low.toInt + choice))

/-- Letters and digits. -/
def alphabet : List Char :=
  "ABCDEFGHIJKLMNOPQRSTUVWXYZabcdefghijklmnopqrstuvwxyz0123456789".toList

def randomString (env : Surroundings) : Builtin := fun args => do
  checkArity (.between 0 1) args
  let length ← intArg args 0 10
  if length.toInt < 0 ∨ (sizeLimit : Int) < length.toInt then complain (.lengthOutOfRange length)
  else
    return .ofChars ((draws alphabet.length length.toInt.toNat env.chance).map fun i =>
      alphabet.getD i 'A')

/-- Takes items out of a list one by one, each at a drawn place. -/
def shuffled {α : Type} (items : List α) : List Nat → List α
  | [] => items
  | i :: rest =>
    match items[i % items.length]? with
    | some v => v :: shuffled (items.eraseIdx (i % items.length)) rest
    | none => items

def shuffle (env : Surroundings) : Builtin := fun args => do
  checkArity (.exactly 1) args
  let items ← seqArg args 0
  return .seq (shuffled items (draws (items.length + 1) items.length env.chance))

/-- The digits of an identifier with its version and its variant in place. -/
def uuidDigits (digits : List Nat) : List Nat :=
  (digits.set 12 4).set 16 (8 + digits.getD 16 0 % 4)

/-- A random identifier of 32 hexadecimal digits in five groups. -/
def uuid (env : Surroundings) : Builtin := fun args => do
  checkArity (.exactly 0) args
  let ds := (uuidDigits (draws 16 32 env.chance)).map Text.hexDigit
  let groups := [ds.take 8, (ds.drop 8).take 4, (ds.drop 12).take 4, (ds.drop 16).take 4,
    ds.drop 20]
  return .ofChars (['-'].intercalate groups)

/-- The helpers of this module and the names they are called by. -/
def helpers (env : Surroundings) : List (String × Builtin) :=
  [("random", random env), ("random_int", randomInt env), ("shuffle", shuffle env),
   ("random_string", randomString env), ("uuid", uuid env)]

end Stencil.Library.Chance
