import Stencil.Number
import Stencil.Record

/-!
Values of templates. A function is known by a handle only: what it does is not part of the value,
and two functions are the same if their handles are.
-/
namespace Stencil

/-- What sort of value something is. -/
inductive Kind where
  | null
  | boolean
  | number
  | string
  | array
  | object
  | function
  deriving DecidableEq, Repr

def Kind.name : Kind → String
  | .null => "null"
  | .boolean => "boolean"
  | .number => "number"
  | .string => "string"
  | .array => "array"
  | .object => "object"
  | .function => "function"

inductive Value where
  | null
  | bool (b : Bool)
  | number (n : Number)
  | string (s : String)
  | seq (items : List Value)
  | map (entries : List (String × Value))
  | function (handle : Nat)

instance : Inhabited Value := ⟨.null⟩

/-- The item at a position; positions below zero count from the end. -/
def itemAt? {α : Type} (items : List α) (index : Int) : Option α :=
  let position := if index < 0 then items.length + index else index
  if position < 0 then none else items[position.toNat]?

namespace Value

def kind : Value → Kind
  | .null => .null
  | .bool _ => .boolean
  | .number _ => .number
  | .string _ => .string
  | .seq _ => .array
  | .map _ => .object
  | .function _ => .function

def int (n : Int64) : Value := .number (.int n)

def float (x : Float) : Value := .number (.float x)

def ofNat (n : Nat) : Value := .number (.ofNat n)

def ofChars (s : List Char) : Value := .string (String.ofList s)

def isNull : Value → Bool
  | .null => true
  | _ => false

/-- Null, false, zero, the value that is not a number and everything empty count as false. -/
def isTruthy : Value → Bool
  | .null => false
  | .bool b => b
  | .number n => !n.isZero && !n.isNaN
  | .string s => !s.isEmpty
  | .seq items => !items.isEmpty
  | .map entries => !entries.isEmpty
  | .function _ => true

/-- The number of characters, items or entries. -/
def length? : Value → Option Nat
  | .string s => some s.length
  | .seq items => some items.length
  | .map entries => some entries.length
  | _ => none

/-- The entry of a map under a key, or the item of a sequence at a position written in decimal. -/
def get? (v : Value) (key : String) : Option Value :=
  match v with
  | .map entries => Record.get? entries key
  | .seq items => do itemAt? items (← Decimal.word? key.toList).toInt
  | _ => none

/-- The order of two numbers, two strings, two booleans or two nulls. -/
def compare? : Value → Value → Option Ordering
  | .number a, .number b => a.compare? b
  | .string a, .string b => some (compare a b)
  | .bool a, .bool b => some (compare a b)
  | .null, .null => some .eq
  | _, _ => none

end Value

end Stencil
