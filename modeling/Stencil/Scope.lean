import Stencil.Value.Basic
import Stencil.Text.Blank

/-!
Scopes: what names stand for while a template is rendered. A scope is a chain of bindings, innermost
first; a name means what the innermost bindings that have it say. Binding a name in a derived scope
leaves the outer ones as they are.
-/
namespace Stencil

structure Scope where
  bindings : Record Value
  outer : List (Record Value)

namespace Scope

/-- A scope of its own with the given bindings. -/
def root (bindings : Record Value) : Scope := ⟨bindings, []⟩

def empty : Scope := root []

/-- All bindings, innermost first. -/
def layers (s : Scope) : List (Record Value) := s.bindings :: s.outer

/-- Binds a name in the innermost layer. -/
def insert (s : Scope) (name : String) (value : Value) : Scope :=
  { s with bindings := Record.insert name value s.bindings }

/-- A new innermost layer with one binding. -/
def derive (s : Scope) (name : String) (value : Value) : Scope := ⟨[(name, value)], s.layers⟩

/-- The scope without its innermost layer; a root scope has nothing to leave. -/
def leave (s : Scope) : Scope :=
  match s.outer with
  | [] => s
  | bindings :: outer => ⟨bindings, outer⟩

/-- How many layers were derived. -/
def depth (s : Scope) : Nat := s.outer.length

def get? (s : Scope) (name : String) : Option Value := s.layers.findSome? (Record.get? · name)

def contains (s : Scope) (name : String) : Bool := (s.get? name).isSome

/-- Adds the names of one layer that are not there yet. -/
def addNames (names : List String) (layer : Record Value) : List String :=
  names ++ (Record.names layer).filter fun n => !names.contains n

/-- The names that are visible, innermost layer first and in order of binding within a layer. -/
def names (s : Scope) : List String := s.layers.foldl addNames []

def size (s : Scope) : Nat := s.names.length

def isEmpty (s : Scope) : Bool := s.layers.all List.isEmpty

/-- Follows the segments of a path. The last one may ask for a length. -/
def follow (v : Value) : List String → Value
  | [] => v
  | segment :: rest =>
    match v.get? segment with
    | some next => follow next rest
    | none =>
      if segment == "length" && rest.isEmpty then
        match v.length? with
        | some n => .ofNat n
        | none => .null
      else .null

/-- The value at a dotted path; null where it leads nowhere. A path that is a bound name means that
name. -/
def resolve (s : Scope) (path : String) : Value :=
  let path := Text.trimmed path
  match s.get? path with
  | some v => v
  | none =>
    match (path.toList.splitOn '.').map fun p => String.ofList (Text.trim p) with
    | [] => .null
    | first :: rest =>
      match s.get? first with
      | some v => follow v rest
      | none => .null

end Scope

end Stencil
