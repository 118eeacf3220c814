import Stencil.Library.Argument

/-!
Helpers on maps, and on values that are reached and assigned by dotted paths.
-/
namespace Stencil.Library.Object

def keys : Builtin := fun args => do
  checkArity (.exactly 1) args
  return .seq ((Record.names (← mapArg args 0)).map .string)

def values : Builtin := fun args => do
  checkArity (.exactly 1) args
  return .seq (Record.values (← mapArg args 0))

/-- The entries of a map as pairs. -/
def items : Builtin := fun args => do
  checkArity (.exactly 1) args
  return .seq ((← mapArg args 0).map fun e => .seq [.string e.1, e.2])

/-- The value under a key, or else the third argument. -/
def get : Builtin := fun args => do
  checkArity (.between 2 3) args
  return ((arg args 0).get? (textArg args 1)).getD (arg args 2)

def has : Builtin := fun args => do
  checkArity (.exactly 2) args
  return .bool ((arg args 0).get? (textArg args 1)).isSome

/-- Gives the entries of the arguments from position `i` on to a map. -/
def mergeFrom (merged : Record Value) (i : Nat) : List Value → Except HelperError (Record Value)
  | [] => .ok merged
  | .map entries :: rest => mergeFrom (merged.insertAll entries) (i + 1) rest
  | v :: _ => complain (.notObject (i + 1) v.kind)

/-- The entries of all arguments; of two under one name the later counts. -/
def merge : Builtin := fun args => do
  return .map (← mergeFrom [] 0 args)

/-- Names given one by one or as one sequence. -/
def keyList (args : List Value) : List String :=
  match args.drop 1 with
  | [.seq keys] => keys.map Value.text
  | keys => keys.map Value.text

/-- The entry under a name, if there is one. -/
def entryAt (source : Record Value) (name : String) : Option (String × Value) :=
  (source.get? name).map fun v => (name, v)

/-- The entries under the given names, in the order of the names. -/
def pick : Builtin := fun args => do
  checkArity (.atLeast 1) args
  let source ← mapArg args 0
  return .map (Record.ofList ((keyList args).filterMap (entryAt source)))

/-- The entries under all other names. -/
def without : Builtin := fun args => do
  checkArity (.atLeast 1) args
  let dropped := keyList args
  return .map ((← mapArg args 0).filter fun e => !dropped.contains e.1)

/-- The segments of a dotted path; empty ones do not count. -/
def segments (path : String) : List String :=
  ((path.toList.splitOn '.').filter fun s => !s.isEmpty).map String.ofList

/-- The value that the segments lead to, if they lead anywhere. -/
def descend (v : Value) : List String → Option Value
  | [] => some v
  | s :: rest => (v.get? s).bind fun next => descend next rest

/-- The value at a dotted path, or else the third argument. -/
def dataGet : Builtin := fun args => do
  checkArity (.between 2 3) args
  return (descend (arg args 0) (segments (textArg args 1))).getD (arg args 2)

/-- A position as it may be written in a path that is assigned to: digits with an optional plus. -/
def position? (s : List Char) : Option Nat :=
  match s with
  | '+' :: rest => Decimal.natural? rest
  | s => Decimal.natural? s

/-- The position of an item that an assignment replaces. Positions have 64 bits, as they have where
an item is looked up. -/
def slot? (items : List Value) (segment : String) : Option (Fin items.length) :=
  match position? segment.toList with
  | some i =>
    if h : i < items.length ∧ (i : Int) ≤ Int64.maxValue.toInt then some ⟨i, h.1⟩ else none
  | none => none

/-- The entries of a map; any other value has none. -/
def entriesOf : Value → Record Value
  | .map entries => entries
  | _ => []

/-- Assigns a value at the end of a path. Items of sequences are replaced; everything else on the
way becomes a map. -/
def assign (value : Value) (target : Value) : List String → Value
  | [] => value
  | s :: rest =>
    let asMap : Value :=
      let entries := entriesOf target
      .map (entries.insert s (assign value ((entries.get? s).getD .null) rest))
    match target with
    | .seq items =>
      match slot? items s with
      | some i => .seq (items.set i (assign value items[i] rest))
      | none => asMap
    | _ => asMap

/-- A copy of a value with the value at a dotted path replaced. -/
def dataSet : Builtin := fun args => do
  checkArity (.exactly 3) args
  match segments (textArg args 1) with
  | [] => complain .emptyPath
  | path => return assign (arg args 2) (arg args 0) path

/-- The helpers of this module and the names they are called by. -/
def helpers : List (String × Builtin) :=
  [("keys", keys), ("values", values), ("items", items), ("get", get), ("has", has),
   ("merge", merge), ("pick", pick), ("omit", without), ("data_get", dataGet),
   ("data_set", dataSet)]

end Stencil.Library.Object
