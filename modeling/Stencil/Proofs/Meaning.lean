import Stencil.Proofs.Interpolation
import Stencil.Proofs.Template
import Stencil.Proofs.Totality
import Stencil.Render.Engine

/-!
What a template tree means, by recursion on the tree. An element with a loop stands for one copy of
itself for every item, a guard decides about each copy, bindings become attributes, and expressions
become their values. Nothing is read again that was put in.
-/
namespace Stencil

open Directive Engine Markup Text

/-! ### Values -/

namespace Engine

/-- An engine with the settings where none are given. -/
def standard (environment : Expr.Environment) : Engine := ⟨environment, Config.default⟩

variable (e : Engine)

/-- The value of an expression, null where it has none. -/
def valueIn (scope : Scope) (source : List Char) : Value :=
  match e.valueOf scope source with
  | .ok v => v
  | .error _ => .null

def textIn (scope : Scope) (source : List Char) : List Char := (e.valueIn scope source).text.toList

/-- The text that a binding sets, if the value is not null. -/
def boundText? (scope : Scope) (source : List Char) : Option (List Char) :=
  match e.valueIn scope source with
  | .null => none
  | v => some v.text.toList

/-- Whether the guard of an element holds; without a guard there is nothing to hold. -/
def shows (scope : Scope) (head : Head) : Bool :=
  match e.names.guard? head.tag with
  | some guard => (e.valueIn scope guard).isTruthy
  | none => true

/-- The scopes of the turns of a loop. -/
def turnScopes (scope : Scope) (header : LoopHeader) : List Scope :=
  match entries? (e.valueIn scope header.collection) with
  | some entries => entries.map fun p => turnScope scope header p.1 p.2
  | none => []

/-- The scopes for which an element is written. -/
def copies (scope : Scope) (head : Head) : List Scope :=
  let scopes :=
    match e.names.loop? head.tag with
    | some header => e.turnScopes scope header
    | none => [scope]
  scopes.filter fun inner => e.shows inner head

/-- What becomes of an attribute: guards and loops go, a binding sets its target unless the value is
null, and of all others the value is treated as `onPlain` says. -/
def attrOutput? (scope : Scope) (onPlain : List Char → List Char) (a : QuotedAttr) :
    Option QuotedAttr :=
  if e.isGuard a.toAttr || e.isLoop a.toAttr then none
  else
    match e.names.target? a.toAttr with
    | none => some ⟨a.name, onPlain a.value⟩
    | some target => (e.boundText? scope a.value).map fun text => ⟨target, escapeQuotes text⟩

def headOutput (scope : Scope) (onPlain : List Char → List Char) (head : Head) : Head :=
  ⟨head.name, head.attrs.filterMap (e.attrOutput? scope onPlain)⟩

/-- A head with its bindings resolved. -/
def bound (scope : Scope) (head : Head) : Head := e.headOutput scope id head

/-- A head with its bindings resolved and its expressions evaluated. -/
def resolved (scope : Scope) (head : Head) : Head :=
  e.headOutput scope (fill (e.textIn scope)) head

/-- An element, once for every copy. -/
def written (scope : Scope) (head : Head) (inner : Scope → Template) : Template :=
  Template.join ((e.copies scope head).map fun turn =>
    .element (e.resolved turn head) (inner turn) .nil)

end Engine

/-- The meaning of a template in a scope. -/
def Template.rendered (e : Engine) : Template → Scope → Template
  | nil, _ => nil
  | text s rest, scope => text (fill (e.textIn scope) s) (rest.rendered e scope)
  | element head inner rest, scope =>
    (e.written scope head fun turn => inner.rendered e turn).append (rest.rendered e scope)

/-! ### What is put in -/

/-- Where a value can be put: into a text, into the value of an attribute, or in the place of a
binding. -/
inductive Place where
  | text
  | attribute
  | binding
  deriving DecidableEq, Repr

/-- The characters by which a value would be read as part of the template. -/
def Place.active : Place → List Char
  | .text => ['<', '\x7b']
  | .attribute => ['"', '\x7b']
  | .binding => ['\x7b']

/-- A value put at a place without active characters. -/
def Inert (p : Place × List Char) : Prop := ∀ c ∈ p.1.active, c ∉ p.2

instance (p : Place × List Char) : Decidable (Inert p) :=
  List.decidableBAll (fun c => c ∉ p.2) p.1.active

namespace Engine

variable (e : Engine)

/-- What is put in at an attribute. -/
def attrInserts (scope : Scope) (a : QuotedAttr) : List (Place × List Char) :=
  if e.isGuard a.toAttr || e.isLoop a.toAttr then []
  else
    match e.names.target? a.toAttr with
    | none => (inserted (e.textIn scope) a.value).map fun v => (.attribute, v)
    | some _ => (e.boundText? scope a.value).toList.map fun text => (.binding, text)

def headInserts (scope : Scope) (head : Head) : List (Place × List Char) :=
  head.attrs.flatMap (e.attrInserts scope)

end Engine

/-- What is put in while a template is rendered. In what a failing guard hides, loops are still
written out before it is removed, and nothing else is evaluated. -/
def Template.inserts (e : Engine) : Bool → Template → Scope → List (Place × List Char)
  | _, nil, _ => []
  | hidden, text s rest, scope =>
    (if hidden then [] else (inserted (e.textIn scope) s).map fun v => (.text, v)) ++
      rest.inserts e hidden scope
  | hidden, element head inner rest, scope =>
    (match e.names.loop? head.tag with
      | some _ => (e.copies scope head).flatMap fun turn =>
          e.headInserts turn head ++ inner.inserts e false turn
      | none =>
        if hidden || !e.shows scope head then inner.inserts e true scope
        else e.headInserts scope head ++ inner.inserts e false scope) ++
      rest.inserts e hidden scope

/-- Everything that is put in is inert. -/
def Template.Harmless (e : Engine) (hidden : Bool) (scope : Scope) (t : Template) : Prop :=
  ∀ p ∈ t.inserts e hidden scope, Inert p

instance (e : Engine) (hidden : Bool) (scope : Scope) (t : Template) :
    Decidable (t.Harmless e hidden scope) := inferInstanceAs (Decidable (∀ _ ∈ _, _))

/-! ### Templates that have a meaning -/

/-- Names that make an attribute a directive. -/
def Directive.Names.reserves (names : Names) (name : List Char) : Bool :=
  eqIgnoringCase name names.guard || eqIgnoringCase name names.loop ||
    (names.target? ⟨name, none, []⟩).isSome

/-- Names without blanks and braces, loops with a header, bindings of attributes that are no
directives, and braces in plain values only around expressions. -/
structure Markup.QuotedAttr.Wellformed (names : Names) (a : QuotedAttr) : Prop where
  name_chars : ∀ c ∈ a.name, isBlank c = false ∧ c ≠ '\x7b'
  loop : a.toAttr.isNamed names.loop = true → (names.header? a.toAttr).isSome = true
  target : ∀ target ∈ names.target? a.toAttr, names.reserves target = false
  plain : names.reserves a.name = false → Spanned a.value

instance (names : Names) (a : QuotedAttr) : Decidable (a.Wellformed names) :=
  have := List.decidableBAll (fun c => isBlank c = false ∧ c ≠ '\x7b') a.name
  decidable_of_iff ((∀ c ∈ a.name, isBlank c = false ∧ c ≠ '\x7b') ∧
      (a.toAttr.isNamed names.loop = true → (names.header? a.toAttr).isSome = true) ∧
      (∀ target ∈ names.target? a.toAttr, names.reserves target = false) ∧
      (names.reserves a.name = false → Spanned a.value))
    ⟨fun h => ⟨h.1, h.2.1, h.2.2.1, h.2.2.2⟩, fun h => ⟨h.name_chars, h.loop, h.target, h.plain⟩⟩

structure Markup.Head.Wellformed (names : Names) (head : Head) : Prop where
  readable : head.Readable
  full : head.tag.isEmptyElement = false
  attrs : ∀ a ∈ head.attrs, a.Wellformed names

instance (names : Names) (head : Head) : Decidable (head.Wellformed names) :=
  decidable_of_iff (head.Readable ∧ head.tag.isEmptyElement = false ∧
      ∀ a ∈ head.attrs, a.Wellformed names)
    ⟨fun h => ⟨h.1, h.2.1, h.2.2⟩, fun h => ⟨h.readable, h.full, h.attrs⟩⟩

namespace Template

/-- Text that opens no tag and has braces only around expressions. -/
def SoundText (s : List Char) : Prop := '<' ∉ s ∧ Spanned s

instance : DecidablePred SoundText := fun s =>
  inferInstanceAs (Decidable ('<' ∉ s ∧ Spanned s))

def Wellformed (names : Names) : Template → Prop := All SoundText (Head.Wellformed names)

instance (names : Names) (t : Template) : Decidable (t.Wellformed names) :=
  inferInstanceAs (Decidable (t.All SoundText (Head.Wellformed names)))

/-- How deep elements with a guard or a loop are nested. -/
def nesting (names : Names) : Template → Nat
  | nil => 0
  | text _ rest => rest.nesting names
  | element head inner rest =>
    let own := if (names.guard? head.tag).isSome || (names.loop? head.tag).isSome then 1 else 0
    max (own + inner.nesting names) (rest.nesting names)

end Template

/-! ### Evaluation -/

namespace Engine

variable {e : Engine}

theorem valueIn_of_ok {scope : Scope} {source : List Char} {v : Value}
    (h : e.valueOf scope source = .ok v) : e.valueIn scope source = v := by
  rw [valueIn, h]

/-- What becomes of an attribute whose value can be evaluated. -/
theorem bindingEdit_eq {scope : Scope} {a : Attr} {target : List Char}
    (ht : e.names.target? a = some target)
    (hv : e.valueOf scope (a.value.getD []) = .ok (e.valueIn scope (a.value.getD []))) :
    e.bindingEdit scope a = .ok (match e.boundText? scope (a.value.getD []) with
      | none => .drop
      | some text => .replace (target ++ '=' :: '"' :: escapeQuotes text ++ ['"'])) := by
  simp only [bindingEdit, ht, hv, boundText?, bind, Except.bind]
  cases e.valueIn scope (a.value.getD []) <;> rfl

variable (henv : e.environment.Total)

include henv

theorem valueOf_eq (scope : Scope) (source : List Char) :
    e.valueOf scope source = .ok (e.valueIn scope source) := by
  obtain ⟨v, hv⟩ := henv.exists_evaluate scope (String.ofList source)
  have hvalue : e.valueOf scope source = .ok v := by
    rw [valueOf, hv]
    rfl
  rw [hvalue, valueIn_of_ok hvalue]

theorem holds_eq (scope : Scope) (guard : List Char) :
    e.holds scope guard = .ok (e.valueIn scope guard).isTruthy := by
  rw [holds, valueOf_eq henv]
  rfl

theorem interpolated_eq (scope : Scope) (s : List Char) :
    e.interpolated scope s = .ok (fill (e.textIn scope) s) := by
  refine interpolate_eq_fill (fun source => ?_) s
  rw [valueOf_eq henv]
  rfl

end Engine

end Stencil
