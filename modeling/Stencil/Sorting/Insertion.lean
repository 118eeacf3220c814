/-!
Sorting by insertion. The order is given by a test whether one item belongs before another; items
of which neither does keep their places.
-/
namespace Stencil.Sorting

variable {α : Type}

/-- Puts an item into a sorted run whose last item comes first. -/
def insertSorted (before : α → α → Bool) (v : α) : List α → List α
  | [] => [v]
  | w :: rest => if before v w then w :: insertSorted before v rest else v :: w :: rest

/-- Adds items to a sorted run one by one. -/
def insertAll (before : α → α → Bool) (run items : List α) : List α :=
  (items.foldl (fun run v => insertSorted before v run) run.reverse).reverse

def insertionSort (before : α → α → Bool) (items : List α) : List α := insertAll before [] items

end Stencil.Sorting
