import Stencil.Sorting.Pivot

/-!
Sorting by a test whether one item belongs before another. Where the test is an order, the result is
the list in that order, and items that are alike keep their places. Where the test contradicts
itself, the result is what this way of sorting makes of it, or none where it notices.
-/
namespace Stencil.Sorting

variable {α : Type}

/-- Lists up to this length are sorted by insertion. -/
def insertionLength : Nat := 20

/-- Lists up to this length have their runs sorted at once. -/
def atOnceLength : Nat := 64

/-- A list that is in no order yet, in order. -/
def sortUnordered (before : α → α → Bool) (items : List α) : Option (List α) :=
  sortByPivot before (2 * items.length.log2) none items

def sortBy (before : α → α → Bool) (items : List α) : Option (List α) :=
  if items.length ≤ insertionLength then some (insertionSort before items)
  else sortByRuns before (sortUnordered before) (items.length ≤ atOnceLength) items

end Stencil.Sorting
