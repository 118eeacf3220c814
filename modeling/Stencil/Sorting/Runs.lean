import Stencil.Sorting.Short

/-!
Sorting by runs. A list is cut into runs: parts that are long enough and in order already, and parts
between them, which are sorted at once or left for later. The runs are merged along a tree that is
close to a balanced one over the positions of the items.
-/
namespace Stencil.Sorting

variable {α : Type}

structure Run (α : Type) where
  items : List α
  isSorted : Bool

/-- The number of items up to which each fits the one in front of it. -/
def chainLength (fits : α → α → Bool) (v : α) : List α → Nat
  | [] => 0
  | w :: rest => if fits v w then chainLength fits w rest + 1 else 0

/-- The length of the ordered part that a list starts with, and whether that part descends. A part
descends only if no two of its items are alike. -/
def orderedStart (before : α → α → Bool) : List α → Nat × Bool
  | v :: w :: rest =>
    if before w v then (2 + chainLength (fun a b => before b a) w rest, true)
    else (2 + chainLength (fun a b => !before b a) w rest, false)
  | items => (items.length, false)

/-- An approximation of a square root. -/
def rootEstimate (n : Nat) : Nat :=
  let shift := (1 + n.log2) / 2
  (Nat.pow 2 shift + n / Nat.pow 2 shift) / 2

/-- The least length of an ordered part that is taken for a run, in a list of `n` items. -/
def runLength (n : Nat) : Nat := if n ≤ 4096 then min (n - n / 2) 64 else rootEstimate n

/-- The first run of a list. -/
def firstRun (before : α → α → Bool) (least : Nat) (atOnce : Bool) (items : List α) :
    Option (Run α) :=
  let (length, descends) := orderedStart before items
  if least ≤ length then
    let part := items.take length
    some ⟨if descends then part.reverse else part, true⟩
  else if atOnce then
    (sortShort before (items.take shortLength)).map fun part => ⟨part, true⟩
  else some ⟨items.take least, false⟩

/-- The runs of a list. -/
def runs (before : α → α → Bool) (least : Nat) (atOnce : Bool) (items : List α) :
    Option (List (Run α)) :=
  match items with
  | [] => some []
  | v :: rest =>
    match firstRun before least atOnce (v :: rest) with
    | none => none
    | some run =>
      (runs before least atOnce (rest.drop (run.items.length - 1))).map (run :: ·)
termination_by items.length
decreasing_by
  simp only [List.length_drop, List.length_cons]
  omega

/-- The depth at which two neighbouring runs meet in the tree over `n` items, for the positions
where the left run starts, where the right one does and where it ends: the number of leading binary
digits in which the middles of the two runs agree as parts of the whole. -/
def meetingDepth (n start middle stop : Nat) : Nat :=
  let scale := (Nat.pow 2 62 + n - 1) / n
  let difference := (scale * (start + middle)).xor (scale * (middle + stop))
  if difference = 0 then 64 else 63 - difference.log2

/-- The items of a run in order; `finish` sorts what is in no order yet. -/
def Run.inOrder (finish : List α → Option (List α)) (run : Run α) : Option (List α) :=
  if run.isSorted then some run.items else finish run.items

/-- Two neighbouring runs as one. Runs that are both unsorted are left so. -/
def joinRuns (before : α → α → Bool) (finish : List α → Option (List α)) (left right : Run α) :
    Option (Run α) := do
  if left.isSorted || right.isSorted then
    return ⟨mergeRuns before (← left.inOrder finish) (← right.inOrder finish), true⟩
  else return ⟨left.items ++ right.items, false⟩

/-- Joins a run with the runs that wait in front of it, as long as they wait at the given depth or
deeper. The nearest run comes first. -/
def joinWaiting (before : α → α → Bool) (finish : List α → Option (List α)) (depth : Nat) :
    List (Run α × Nat) → Run α → Option (List (Run α × Nat) × Run α)
  | [], run => some ([], run)
  | (left, d) :: waiting, run =>
    if depth ≤ d then do joinWaiting before finish depth waiting (← joinRuns before finish left run)
    else some ((left, d) :: waiting, run)

/-- All runs as one. `latest` ends at the position `stop` of `n`, and the runs in front of it wait
for it. -/
def joinAll (before : α → α → Bool) (finish : List α → Option (List α)) (n stop : Nat)
    (waiting : List (Run α × Nat)) (latest : Run α) : List (Run α) → Option (Run α)
  | [] => (joinWaiting before finish 0 waiting latest).map (·.2)
  | next :: rest => do
    let stop' := stop + next.items.length
    let depth := meetingDepth n (stop - latest.items.length) stop stop'
    let (waiting, joined) ← joinWaiting before finish depth waiting latest
    joinAll before finish n stop' ((joined, depth) :: waiting) next rest

/-- A list in order, by way of its runs. -/
def sortByRuns (before : α → α → Bool) (finish : List α → Option (List α)) (atOnce : Bool)
    (items : List α) : Option (List α) := do
  match ← runs before (runLength items.length) atOnce items with
  | [] => return []
  | run :: rest =>
    let whole ← joinAll before finish items.length run.items.length [] run rest
    whole.inOrder finish

end Stencil.Sorting
