/-!
Records: values under names, in the order in which the names were first given. Giving a name again
replaces its value and leaves its place.
-/
namespace Stencil

abbrev Record (α : Type) := List (String × α)

namespace Record

variable {α : Type}

def get? (r : Record α) (name : String) : Option α := r.lookup name

def contains (r : Record α) (name : String) : Bool := (r.get? name).isSome

def insert (name : String) (value : α) : Record α → Record α
  | [] => [(name, value)]
  | (k, v) :: rest =>
    if k == name then (k, value) :: rest else (k, v) :: insert name value rest

/-- Gives all entries of `entries`, in order, to `r`. -/
def insertAll (r : Record α) (entries : List (String × α)) : Record α :=
  entries.foldl (fun r e => r.insert e.1 e.2) r

def ofList (entries : List (String × α)) : Record α := insertAll [] entries

def names (r : Record α) : List String := r.map Prod.fst

def values (r : Record α) : List α := r.map Prod.snd

theorem get?_insert (r : Record α) (name other : String) (value : α) :
    (r.insert name value).get? other = if other = name then some value else r.get? other := by
  induction r with
  | nil =>
    by_cases h : other = name
    · simp [insert, get?, h]
    · simp [insert, get?, List.lookup_cons, List.lookup_nil, h, beq_eq_false_iff_ne.mpr]
  | cons e rest ih =>
    obtain ⟨k, v⟩ := e
    simp only [get?] at ih ⊢
    by_cases hk : k = name
    · subst hk
      by_cases h : other = k
      · simp [insert, h]
      · simp [insert, List.lookup_cons, h, beq_eq_false_iff_ne.mpr]
    · by_cases h : other = k
      · subst h
        simp [insert, hk]
      · simp only [insert, beq_iff_eq, hk, if_false, List.lookup_cons, beq_eq_false_iff_ne.mpr h,
          ih]

theorem insert_insert (r : Record α) (name : String) (first second : α) :
    (r.insert name first).insert name second = r.insert name second := by
  induction r with
  | nil => simp [insert]
  | cons e rest ih =>
    obtain ⟨k, v⟩ := e
    by_cases h : k = name
    · simp [insert, h]
    · simp [insert, h, ih]

end Record

end Stencil
