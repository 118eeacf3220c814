import Stencil.Library.Argument
import Stencil.Value.Reader

/-!
Helpers that turn values into values of another kind, that tell kinds and properties apart, and that
choose between values.
-/
namespace Stencil.Library.Conversion

open Decimal

def str : Builtin := fun args => do
  checkArity (.exactly 1) args
  return .string (textArg args 0)

/-- An integer: text that names one as it is, any other number cut off and brought into range. -/
def int : Builtin := fun args => do
  checkArity (.exactly 1) args
  let v := arg args 0
  let exact := match v with
    | .string s => word? (Text.trim s.toList)
    | _ => none
  match exact, numeric? v with
  | some n, _ => return .int n
  | none, some x =>
    if isFinite x then return .int (saturate x) else complain (.notConvertible v.kind "int")
  | none, none => complain (.notConvertible v.kind "int")

def float : Builtin := fun args => do
  checkArity (.exactly 1) args
  match numeric? (arg args 0) with
  | some x => return .float x
  | none => complain (.notConvertible (arg args 0).kind "float")

def typeName : Builtin := fun args => do
  checkArity (.exactly 1) args
  return .string (arg args 0).kind.name

/-- The argument as it is. -/
def raw : Builtin := fun args => do
  checkArity (.exactly 1) args
  return arg args 0

def debug : Builtin := fun args => do
  checkArity (.exactly 1) args
  return .string ("<!-- Debug: " ++ textArg args 0 ++ " -->")

/-- The data format, indented if there is a second argument. -/
def jsonEncode : Builtin := fun args => do
  checkArity (.between 1 2) args
  return .string ((arg args 0).json (if (arg args 1).isNull then .compact else .indented))

def jsonDecode : Builtin := fun args => do
  checkArity (.exactly 1) args
  match Value.ofJson (textArg args 0) with
  | .ok v => return v
  | .error e => complain (.malformedJson e)

/-- Digits with at most one point among or around them. -/
def isDigitsWithPoint (s : List Char) : Bool :=
  let digits := s.erase '.'
  !digits.isEmpty && digits.all Text.isAsciiDigit

/-- Finite numbers, and text of digits with an optional minus and at most one point. -/
def isNumeric : Value → Bool
  | .number n => isFinite n.toFloat
  | .string s =>
    match Text.trim s.toList with
    | '-' :: rest => isDigitsWithPoint rest
    | s => isDigitsWithPoint s
  | _ => false

/-- Null and the empty text. -/
def isBlank : Value → Bool
  | .null => true
  | .string s => s.isEmpty
  | _ => false

/-- The first argument, or the second one in place of a blank. -/
def default : Builtin := fun args => do
  checkArity (.exactly 2) args
  return if isBlank (arg args 0) then arg args 1 else arg args 0

def ternary : Builtin := fun args => do
  checkArity (.exactly 3) args
  return if (arg args 0).isTruthy then arg args 1 else arg args 2

/-- The first argument that is not blank. -/
def coalesce : Builtin := fun args =>
  .ok ((args.find? fun v => !isBlank v).getD .null)

/-- The helpers of this module and the names they are called by. -/
def helpers : List (String × Builtin) :=
  [("str", str), ("int", int), ("float", float), ("bool", predicate Value.isTruthy),
   ("type", typeName), ("raw", raw), ("debug", debug), ("json_encode", jsonEncode),
   ("to_json", jsonEncode), ("json_decode", jsonDecode), ("from_json", jsonDecode),
   ("is_empty", predicate fun v => !v.isTruthy), ("is_not_empty", predicate Value.isTruthy),
   ("is_null", predicate Value.isNull), ("is_not_null", predicate fun v => !v.isNull),
   ("is_numeric", predicate isNumeric), ("is_string", predicate fun v => v.kind == .string),
   ("is_array", predicate fun v => v.kind == .array),
   ("is_object", predicate fun v => v.kind == .object),
   ("is_boolean", predicate fun v => v.kind == .boolean), ("is_true", predicate Value.isTruthy),
   ("is_false", predicate fun v => !v.isTruthy), ("default", default), ("ternary", ternary),
   ("coalesce", coalesce)]

end Stencil.Library.Conversion
