import Stencil.Markup.Segment

/-!
Elements and their replacement. An element reaches from its opening tag to the closing tag of the
same name that pairs with it when opening and closing tags of that name are counted. Only outermost
elements are replaced; what an element holds is left to whoever replaces it.
-/
namespace Stencil.Markup

open Text

/-- An element as text: its opening tag, what it holds, and its closing tag. The last two are empty
where the tag opens no content. -/
structure Element where
  tag : OpenTag
  inner : List Char
  closing : List Char

/-- The segments up to a closing tag, that tag's source, and what follows it. -/
structure Pairing where
  inner : List Segment
  closing : List Char
  rest : List Segment

/-- Whether a segment opens an element of this name that has to be closed. -/
def Segment.opens (name : List Char) : Segment → Bool
  | .openTag t => eqIgnoringCase t.name name && !t.isEmptyElement
  | _ => false

/-- The source of a closing tag of this name. -/
def Segment.closing? (name : List Char) : Segment → Option (List Char)
  | .closeTag n source => if eqIgnoringCase n name then some source else none
  | _ => none

/-- The search behind `pair?` inside `depth` further elements of the name, with the segments passed,
last first. -/
def pairFrom (name : List Char) (depth : Nat) (passed : List Segment) :
    List Segment → Option Pairing
  | [] => none
  | segment :: rest =>
    match segment.closing? name, depth with
    | some source, 0 => some ⟨passed.reverse, source, rest⟩
    | some _, depth + 1 => pairFrom name depth (segment :: passed) rest
    | none, depth =>
      pairFrom name (if segment.opens name then depth + 1 else depth) (segment :: passed) rest

/-- Finds the closing tag that pairs with an opening tag of this name in front of the segments. -/
def pair? (name : List Char) (segments : List Segment) : Option Pairing :=
  pairFrom name 0 [] segments

theorem length_lt_of_pairFrom {name : List Char} {depth : Nat} {passed segments : List Segment}
    {p : Pairing} (h : pairFrom name depth passed segments = some p) :
    p.rest.length < segments.length := by
  fun_induction pairFrom name depth passed segments with
  | case1 => simp at h
  | case2 passed segment rest source hc =>
    simp only [Option.some.injEq] at h
    simp [← h]
  | case3 passed segment rest source hc depth ih => exact Nat.lt_succ_of_lt (ih h)
  | case4 passed segment rest depth hc ih => exact Nat.lt_succ_of_lt (ih h)

/-- A text seen by whoever replaces some of its elements: text that stays, elements that are
targets, and targets that are not closed. What makes a tag a target comes with it. -/
inductive Piece (α : Type) where
  | kept (source : List Char)
  | element (mark : α) (e : Element)
  | unclosed (mark : α) (t : OpenTag)

/-- The division behind `pieces`, with the pieces so far, last first. -/
def piecesFrom {α : Type} (mark? : OpenTag → Option α) (done : List (Piece α)) :
    List Segment → List (Piece α)
  | [] => done.reverse
  | .openTag t :: rest =>
    match mark? t with
    | none => piecesFrom mark? (.kept t.source :: done) rest
    | some mark =>
      if t.isEmptyElement then piecesFrom mark? (.element mark ⟨t, [], []⟩ :: done) rest
      else
        match _h : pair? t.name rest with
        | some p =>
          piecesFrom mark? (.element mark ⟨t, sources p.inner, p.closing⟩ :: done) p.rest
        | none => piecesFrom mark? (.unclosed mark t :: done) rest
  | segment :: rest => piecesFrom mark? (.kept segment.source :: done) rest
termination_by segments => segments.length
decreasing_by
  · exact Nat.lt_succ_self _
  · exact Nat.lt_succ_self _
  · exact Nat.lt_succ_of_lt (length_lt_of_pairFrom (by assumption))
  · exact Nat.lt_succ_self _
  · exact Nat.lt_succ_self _

/-- Divides a text into its outermost elements with a marked tag and what is between them. A marked
tag that is not closed stands alone, and what follows it is divided further. -/
def pieces {α : Type} (mark? : OpenTag → Option α) (s : List Char) : List (Piece α) :=
  piecesFrom mark? [] (segments s)

/-- What happens at a marked tag that is not closed: the tag alone goes, or the rest goes with it.
-/
inductive Unclosed where
  | dropTag
  | dropRest
  deriving DecidableEq, Repr

/-- A rule by which elements are replaced. -/
structure Replacement (α ε : Type) where
  mark? : OpenTag → Option α
  replace : α → Element → Except ε (List Char)
  unclosed : α → Except ε Unclosed

namespace Replacement

variable {α ε : Type}

/-- The text of pieces in a row, with the texts so far, last first. -/
def assemble (r : Replacement α ε) (done : List (List Char)) :
    List (Piece α) → Except ε (List Char)
  | [] => .ok done.reverse.flatten
  | .kept source :: rest => r.assemble (source :: done) rest
  | .element mark e :: rest => do
    let text ← r.replace mark e
    r.assemble (text :: done) rest
  | .unclosed mark _ :: rest => do
    match ← r.unclosed mark with
    | .dropTag => r.assemble done rest
    | .dropRest => return done.reverse.flatten

/-- Replaces the outermost elements with a marked tag, from left to right. -/
def apply (r : Replacement α ε) (s : List Char) : Except ε (List Char) :=
  r.assemble [] (pieces r.mark? s)

end Replacement

/-- Replaces the text of every opening tag, from left to right. -/
def replaceTags {ε : Type} (edit : OpenTag → Except ε (List Char)) (s : List Char) :
    Except ε (List Char) := do
  let texts ← (segments s).mapM fun segment =>
    match segment with
    | .openTag t => edit t
    | segment => .ok segment.source
  return texts.flatten

end Stencil.Markup
