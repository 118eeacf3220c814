import Stencil.Sorting.Runs

/-!
Sorting by parting a list at one of its items. After too many steps that did not finish, what is
left is sorted by runs.
-/
namespace Stencil.Sorting

variable {α : Type}

/-- The middle one of three items. -/
def median (before : α → α → Bool) (a b c : α) : α :=
  if before a b == before a c then if before b c != before a b then c else b else a

/-- An item near the middle of the order, from a part of a list: the median of three such items, of
the first, the fifth and the last eighth of the part. -/
def typical (before : α → α → Bool) (items : Array α) (start length : Nat) : Option α :=
  if length < 8 then items[start]?
  else do
    let eighth := length / 8
    return median before (← typical before items start eighth)
      (← typical before items (start + 4 * eighth) eighth)
      (← typical before items (start + 7 * eighth) eighth)
termination_by length
decreasing_by all_goals omega

/-- A list in order. At most `limit` steps part it. No item belongs before `floor`, if there is one;
an item that `floor` does not belong before is like it, and all such items come first. -/
def sortByPivot (before : α → α → Bool) (limit : Nat) (floor : Option α) (items : List α) :
    Option (List α) :=
  if items.length ≤ shortLength then sortShort before items
  else
    match limit with
    | 0 => sortByRuns before some true items
    | limit + 1 => do
      let pivot ← typical before items.toArray 0 items.length
      let isFloor := floor.any fun v => !before v pivot
      let (lower, upper) := items.partition fun v => before v pivot
      if isFloor || lower.isEmpty then
        let (same, rest) := items.partition fun v => !before pivot v
        return same ++ (← sortByPivot before limit none rest)
      else
        let last ← sortByPivot before limit (some pivot) upper
        return (← sortByPivot before limit floor lower) ++ last

end Stencil.Sorting
