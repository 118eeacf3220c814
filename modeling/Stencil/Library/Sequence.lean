import Stencil.Library.Argument
import Stencil.Sorting.Basic
import Stencil.Value.Equality

/-!
Helpers on sequences. Where a position or a part is asked for, a text counts as the sequence of its
characters, and a part of a text is a text again.
-/
namespace Stencil.Library.Sequence

/-- The items of a sequence, or the characters of a text. -/
def itemsArg (args : List Value) (i : Nat) : Except HelperError (List Value) :=
  match arg args i with
  | .string s => .ok (s.toList.map fun c => .ofChars [c])
  | _ => seqArg args i

/-- Items as a value of the kind they come from. -/
def sameKind (v : Value) (items : List Value) : Value :=
  match v with
  | .string _ => .string (String.join (items.map Value.text))
  | _ => .seq items

def first : Builtin := fun args => do
  checkArity (.exactly 1) args
  return (← itemsArg args 0).head?.getD .null

def last : Builtin := fun args => do
  checkArity (.exactly 1) args
  return (← itemsArg args 0).getLast?.getD .null

/-- A position as a count from the start; below zero it counts from the end. -/
def fromStart (index : Int) (length : Nat) : Int := if index < 0 then length + index else index

/-- A position as a count from the start, within the length. -/
def bound (index : Int) (length : Nat) : { n : Nat // n ≤ length } :=
  ⟨(min (fromStart index length) length).toNat, by omega⟩

/-- The part of a list between two positions within it. -/
def part {α : Type} (items : List α) (start stop : Nat) (_h : start ≤ stop ∧ stop ≤ items.length) :
    List α :=
  (items.take stop).drop start

/-- A position that is the end where none is given. -/
def stopArg (args : List Value) (i length : Nat) : Except HelperError { n : Nat // n ≤ length } :=
  match arg args i with
  | .null => .ok ⟨length, Nat.le_refl length⟩
  | _ => (intArg args i 0).map fun n => bound n.toInt length

/-- The part between two positions, the second one excluded. -/
def slice : Builtin := fun args => do
  checkArity (.between 2 3) args
  let all ← itemsArg args 0
  let start := bound (← intArg args 1 0).toInt all.length
  let stop ← stopArg args 2 all.length
  let picked :=
    if h : start.val < stop.val then part all start stop ⟨Nat.le_of_lt h, stop.property⟩ else []
  return sameKind (arg args 0) picked

def reverse : Builtin := fun args => do
  checkArity (.exactly 1) args
  return sameKind (arg args 0) (← itemsArg args 0).reverse

/-- What an item is sorted by: itself, or its field under a key. -/
def sortKey (key : Option String) (v : Value) : Value :=
  match key with
  | some key => (v.get? key).getD .null
  | none => v

/-- Refuses two keys that have no order. -/
def checkOrdered (a b : Value) : Except HelperError Unit :=
  match a.compare? b with
  | some _ => .ok ()
  | none => complain (.notOrdered a.kind b.kind)

/-- Refuses neighbours that have no order. -/
def checkNeighbours : List Value → Except HelperError Unit
  | a :: b :: rest => do
    checkOrdered a b
    checkNeighbours (b :: rest)
  | _ => .ok ()

/-- Whether `a` belongs before `b`. -/
def precedes (key : Option String) (a b : Value) : Bool :=
  (sortKey key a).compare? (sortKey key b) == some .lt

/-- What a sort says that finds two items each before the other. -/
def contradiction : String :=
  "user-provided comparison function does not correctly implement a total order"

/-- Items in ascending order; items that are alike keep their places. Integers are compared exactly
with each other and as floats with floats, so the order may contradict itself; there is none if the
sort finds that it does. -/
def sorted (key : Option String) (items : List Value) : Option (List Value) :=
  Sorting.sortBy (precedes key) items

/-- Refuses keys of which two have no order. -/
def checkKeys (keys : List Value) : Except HelperError Unit := do
  checkNeighbours keys
  match keys with
  | [] => return ()
  | v :: _ => checkOrdered v v

/-- The arguments of a sort that can be carried out: the items and the key. -/
def sortArgs (args : List Value) : Except HelperError (List Value × Option String) := do
  checkArity (.between 1 2) args
  let all ← seqArg args 0
  let key := if (arg args 1).isNull then none else some (textArg args 1)
  checkKeys (all.map (sortKey key))
  return (all, key)

def sort : Helper := fun args => do
  let (all, key) ← (sortArgs args).mapError .error
  match sorted key all with
  | some items => return .seq items
  | none => throw (.abort (some contradiction))

/-- Adds an item that is not there yet. -/
def addUnique (seen : List Value) (v : Value) : List Value :=
  if seen.any (· == v) then seen else seen ++ [v]

/-- The first occurrence of every item, in order. -/
def unique : Builtin := fun args => do
  checkArity (.exactly 1) args
  return .seq ((← seqArg args 0).foldl addUnique [])

/-- The number of characters, items or entries. -/
def length : Builtin := fun args => do
  checkArity (.exactly 1) args
  match (arg args 0).length? with
  | some n => return .ofNat n
  | none => complain (.noLength (arg args 0).kind)

/-- Whether the first argument is an item of the second. -/
def inArray : Builtin := fun args => do
  checkArity (.exactly 2) args
  return .bool ((← seqArg args 1).any (· == arg args 0))

/-- The field of an object; other values have none. -/
def pluckFrom (key : String) : Value → Option Value
  | .map entries => some ((Record.get? entries key).getD .null)
  | _ => none

def pluck : Builtin := fun args => do
  checkArity (.exactly 2) args
  return .seq ((← seqArg args 0).filterMap (pluckFrom (textArg args 1)))

/-- The name of the group that an item belongs to. -/
def groupOf (key : String) (v : Value) : String :=
  match v.get? key with
  | some field => field.text
  | none => ""

/-- Adds an item to its group. -/
def addToGroup (key : String) (groups : Record (List Value)) (v : Value) : Record (List Value) :=
  let name := groupOf key v
  groups.insert name ((groups.get? name).getD [] ++ [v])

/-- The items of a list in their groups. -/
def groups (key : String) (items : List Value) : Record (List Value) :=
  items.foldl (addToGroup key) []

/-- Items by the text of a field, in the order in which the texts first appear. -/
def groupBy : Builtin := fun args => do
  checkArity (.exactly 2) args
  return .map ((groups (textArg args 1) (← seqArg args 0)).map fun g => (g.1, .seq g.2))

/-- Pieces of a list that all have `size` items, but perhaps the last. -/
def chunksFrom (size : Nat) (found : List (List Value)) (items : List Value) : List (List Value) :=
  match items with
  | [] => found.reverse
  | v :: rest => chunksFrom size ((v :: rest.take (size - 1)) :: found) (rest.drop (size - 1))
termination_by items.length
decreasing_by
  simp only [List.length_drop, List.length_cons]
  omega

def chunk : Builtin := fun args => do
  checkArity (.exactly 2) args
  let size := (← intArg args 1 0).toInt
  if size ≤ 0 then complain .chunkSizeNotPositive
  else return .seq ((chunksFrom size.toNat [] (← seqArg args 0)).map .seq)

/-- Whether a term belongs to a progression: it lies before `stop` in the direction of the step, or
perhaps at it. -/
def goesOn (stop step : Int64) (inclusive : Bool) (n : Int64) : Bool :=
  match decide (0 < step), inclusive with
  | true, false => n < stop
  | true, true => n ≤ stop
  | false, false => stop < n
  | false, true => stop ≤ n

/-- The term behind another one, if it fits in 64 bits. -/
def nextTerm? (step n : Int64) : Option Int64 :=
  let next := n.toInt + step.toInt
  if Int64.minValue.toInt ≤ next ∧ next ≤ Int64.maxValue.toInt then some (Int64.ofInt next)
  else none

/-- Adds the terms from `n` on to those found, of which the latest comes first. There must be room
for them all. -/
def termsFrom (stop step : Int64) (inclusive : Bool) (room : Nat) (found : List Int64) (n : Int64) :
    Except HelperError (List Int64) :=
  if goesOn stop step inclusive n then
    match room with
    | 0 => complain .rangeTooLarge
    | room + 1 =>
      match nextTerm? step n with
      | some next => termsFrom stop step inclusive room (n :: found) next
      | none => .ok (n :: found).reverse
  else .ok found.reverse

/-- The terms of an arithmetic progression as long as they lie before `stop`, or not past it. -/
def progression (start stop step : Int64) (inclusive : Bool) : Except HelperError Value :=
  if step == 0 then complain .zeroStep
  else (termsFrom stop step inclusive sizeLimit [] start).map fun terms => .seq (terms.map .int)

/-- An arithmetic progression without its end; it starts at zero if there is one argument only. -/
def range : Builtin := fun args => do
  checkArity (.between 1 3) args
  let (start, stop) ←
    if args.length = 1 then pure ((0 : Int64), ← intArg args 0 0)
    else pure (← intArg args 0 0, ← intArg args 1 0)
  progression start stop (← intArg args 2 1) false

/-- An arithmetic progression with its end. -/
def sequence : Builtin := fun args => do
  checkArity (.between 2 3) args
  let start ← intArg args 0 0
  let stop ← intArg args 1 0
  progression start stop (← intArg args 2 1) true

def array : Builtin := fun args => .ok (.seq args)

/-- The helpers of this module and the names they are called by. -/
def helpers : List (String × Builtin) :=
  [("first", first), ("head", first), ("last", last), ("slice", slice), ("reverse", reverse),
   ("unique", unique), ("count", length), ("in_array", inArray), ("pluck", pluck),
   ("group_by", groupBy), ("chunk", chunk), ("range", range), ("sequence", sequence),
   ("array", array), ("len", length), ("length", length)]

end Stencil.Library.Sequence
