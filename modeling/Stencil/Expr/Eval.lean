import Stencil.Expr.Parser
import Stencil.Expr.Operation
import Stencil.Library.Format
import Stencil.Scope
import Stencil.Text.Case

/-!
The value of an expression in a scope. An expression reaches the names of its scope and the helpers
of a registry, and nothing else. Names and members that do not exist are null; an error is reported
by `tryEvaluate`, and `evaluate` takes it for the wish to look up the text as a path.
-/
namespace Stencil.Expr

/-- What expressions can call: registered helpers and function values. -/
structure Environment where
  registry : Registry
  host : Host

abbrev EvalResult (α : Type) := Except (Fault EvalError) α

/-- Names the helper in its error. -/
def invoke (name : String) (result : Except (Fault HelperError) Value) : EvalResult Value :=
  result.mapError fun f => f.map (.helper name)

/-- A member of a value. Everything that has a length has it as a member, too. -/
def memberOf (target : Value) (name : String) : Value :=
  match target.get? name with
  | some v => v
  | none =>
    if name == "length" then
      match target.length? with
      | some n => .ofNat n
      | none => .null
    else .null

/-- The part of a value at a position or under a key. -/
def elementOf (target position : Value) : Value :=
  match target, position with
  | .seq items, .number n => ((n.toInt64?).bind fun i => itemAt? items i.toInt).getD .null
  | .string s, .number n =>
    match (n.toInt64?).bind fun i => itemAt? s.toList i.toInt with
    | some c => .ofChars [c]
    | none => .null
  | .map entries, key => memberOf (.map entries) key.text
  | .seq items, .string key => memberOf (.seq items) key
  | _, _ => .null

/-- Texts with a separator between them. -/
def joined (separator : String) (items : List Value) : String :=
  separator.intercalate (items.map Value.text)

/-- The methods that values have by themselves. -/
def ownMethod? (receiver : Value) (name : String) (args : List Value) :
    Option (Except HelperError Value) :=
  let first := Library.arg args 0
  match name, receiver with
  | "toFixed", v => some (Library.Format.toFixed v first)
  | "toString", v => some (.ok (.string v.text))
  | "toUpperCase", .string s => some (.ok (.ofChars (Text.upper s.toList)))
  | "toLowerCase", .string s => some (.ok (.ofChars (Text.lower s.toList)))
  | "trim", .string s => some (.ok (.string (Text.trimmed s)))
  | "startsWith", .string s => some (.ok (.bool (first.text.toList.isPrefixOf s.toList)))
  | "endsWith", .string s => some (.ok (.bool (first.text.toList.isSuffixOf s.toList)))
  | "includes", .string s => some (.ok (.bool (Text.containsPart first.text.toList s.toList)))
  | "includes", .seq items => some (.ok (.bool (items.any (· == first))))
  | "join", .seq items =>
    some (.ok (.string (joined (if first.isNull then "," else first.text) items)))
  | _, _ => none

/-- Calls a helper, or else a function that the scope binds. A name that is neither gives null. -/
def call (env : Environment) (scope : Scope) (name : String) (args : List Value) :
    EvalResult Value :=
  match env.registry.find? name with
  | some f => invoke name (f args)
  | none =>
    match scope.get? name with
    | some (.function handle) => invoke name (env.host handle args)
    | _ => .ok .null

/-- Calls a method: one of the value's own, a function among its members, or a helper that takes the
value as its first argument. -/
def callMethod (env : Environment) (receiver : Value) (name : String) (args : List Value) :
    EvalResult Value :=
  match ownMethod? receiver name args with
  | some result => invoke name (result.mapError .error)
  | none =>
    match receiver.get? name with
    | some (.function handle) => invoke name (env.host handle args)
    | _ =>
      match env.registry.find? name with
      | some f => invoke name (f (receiver :: args))
      | none => .error (.error (.unknownMethod name receiver.kind))

/-- Reports the error of an operator. -/
def operated (result : Except EvalError Value) : EvalResult Value := result.mapError .error

mutual

/-- The value of a tree. -/
def eval (env : Environment) (scope : Scope) : Tree → EvalResult Value
  | .literal v => .ok v
  | .var name => .ok ((scope.get? name).getD .null)
  | .array items => do return .seq (← evalAll env scope items)
  | .object entries => do return .map (Record.ofList (← evalEntries env scope entries))
  | .member target name => do return memberOf (← eval env scope target) name
  | .index target position => do
    let t ← eval env scope target
    return elementOf t (← eval env scope position)
  | .call name args => do call env scope name (← evalAll env scope args)
  | .method receiver name args => do
    let r ← eval env scope receiver
    callMethod env r name (← evalAll env scope args)
  | .unary op operand => do operated (op.apply (← eval env scope operand))
  | .binary .and left right => do
    let l ← eval env scope left
    if l.isTruthy then eval env scope right else return l
  | .binary .or left right => do
    let l ← eval env scope left
    if l.isTruthy then return l else eval env scope right
  | .binary op left right => do
    let l ← eval env scope left
    let r ← eval env scope right
    operated (op.apply l r)
  | .ternary condition yes no => do
    let c ← eval env scope condition
    if c.isTruthy then eval env scope yes else eval env scope no
  | .coalesce left right => do
    let l ← eval env scope left
    if l.isNull then eval env scope right else return l

/-- The values of trees, from left to right. -/
def evalAll (env : Environment) (scope : Scope) : List Tree → EvalResult (List Value)
  | [] => .ok []
  | t :: ts => do
    let v ← eval env scope t
    return v :: (← evalAll env scope ts)

/-- The values of named trees, from left to right. -/
def evalEntries (env : Environment) (scope : Scope) :
    List (String × Tree) → EvalResult (List (String × Value))
  | [] => .ok []
  | (name, t) :: ts => do
    let v ← eval env scope t
    return (name, v) :: (← evalEntries env scope ts)

end

/-- The value of a text, or the first error. A text that is a bound name means that name. -/
def tryEvaluate (env : Environment) (scope : Scope) (source : String) : EvalResult Value :=
  let source := Text.trimmed source
  match scope.get? source with
  | some v => .ok v
  | none =>
    match parse source.toList with
    | .ok tree => eval env scope tree
    | .error e => .error (.error (.malformed e))

/-- The value of a text, whatever it is: a text with an error is looked up as a path. Only an abort
is left to the caller, as its text. -/
def evaluate (env : Environment) (scope : Scope) (source : String) :
    Except (Option String) Value :=
  match tryEvaluate env scope source with
  | .ok v => .ok v
  | .error (.error _) => .ok (scope.resolve source)
  | .error (.abort text) => .error text

end Stencil.Expr
