import Stencil.Sorting.Insertion
import Stencil.Sorting.Merge

/-!
Sorting of short lists: each half is sorted by insertion, the first four items of it by a fixed
tree of comparisons, and the halves are merged from both ends.
-/
namespace Stencil.Sorting

variable {α : Type}

/-- Lists up to this length are short. -/
def shortLength : Nat := 32

/-- Two items in order. -/
def sortTwo (before : α → α → Bool) (v w : α) : α × α := if before w v then (w, v) else (v, w)

/-- Two pairs, each of them in order, as four items in order. -/
def joinPairs (before : α → α → Bool) (first second : α × α) : List α :=
  let (a, b) := first
  let (c, d) := second
  let low := before c a
  let high := before d b
  let left := if low then a else if high then c else b
  let right := if high then d else if low then b else c
  [if low then c else a, (sortTwo before left right).1, (sortTwo before left right).2,
    if high then b else d]

/-- Four items in order. -/
def sortFour (before : α → α → Bool) (v w x y : α) : List α :=
  joinPairs before (sortTwo before v w) (sortTwo before x y)

/-- Half of a short list in order; `byFour` asks for the tree of comparisons. -/
def sortHalf (before : α → α → Bool) (byFour : Bool) (items : List α) : List α :=
  match byFour, items with
  | true, v :: w :: x :: y :: rest => insertAll before (sortFour before v w x y) rest
  | _, items => insertionSort before items

/-- Short lists below this length have halves without four items each. -/
def treeLength : Nat := 8

/-- A short list in order. -/
def sortShort (before : α → α → Bool) (items : List α) : Option (List α) :=
  let half := items.length / 2
  let byFour := treeLength ≤ items.length
  mergeEnds before (sortHalf before byFour (items.take half))
    (sortHalf before byFour (items.drop half))

end Stencil.Sorting
