/-!
Merges of two sorted runs. Of items that are alike, those of the left run come first. A merge from
both ends at once takes as many steps from the front as from the back; if the test contradicts
itself, the two may take different items, and the merge fails.
-/
namespace Stencil.Sorting

variable {α : Type}

/-- The merge of two runs, made from the front if the left run is not the longer one, else from the
back. -/
def mergeRuns (before : α → α → Bool) (left right : List α) : List α :=
  if left.length ≤ right.length then left.merge right fun l r => !before r l
  else (right.reverse.merge left.reverse fun r l => !before r l).reverse

/-- The first `n` items of a merge, and how many of them come from the first run. -/
def mergeStart (first : α → α → Bool) : Nat → List α → List α → List α × Nat
  | 0, _, _ => ([], 0)
  | n, [], bs => (bs.take n, 0)
  | n, as, [] => (as.take n, min n as.length)
  | n + 1, a :: as, b :: bs =>
    if first a b then
      let (items, count) := mergeStart first n as (b :: bs)
      (a :: items, count + 1)
    else
      let (items, count) := mergeStart first n (a :: as) bs
      (b :: items, count)

/-- The merge of two runs from both ends, where the right run has as many items as the left one or
one more. The item in the middle comes from the left run if that has one left. It fails unless each
run is used up. -/
def mergeEnds (before : α → α → Bool) (left right : List α) : Option (List α) :=
  let half := left.length
  let (front, fromLeft) := mergeStart (fun l r => !before r l) half left right
  let (back, fromRight) := mergeStart (fun r l => !before r l) half right.reverse left.reverse
  if right.length = half then
    if fromLeft = fromRight then some (front ++ back.reverse) else none
  else if fromLeft < fromRight then
    if fromLeft + 1 = fromRight then some (front ++ (left.drop fromLeft).take 1 ++ back.reverse)
    else none
  else if fromLeft = fromRight then
    some (front ++ (right.drop (half - fromLeft)).take 1 ++ back.reverse)
  else none

end Stencil.Sorting
