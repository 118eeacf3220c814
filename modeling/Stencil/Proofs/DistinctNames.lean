import Mathlib.Data.List.Nodup
import Stencil.Proofs.LayeredScopes

/-!
Records with distinct names. Such a record is the same whether its entries are listed or looked up:
an entry belongs to it if its name has its value, so neither the order of the entries nor the end at
which a search starts makes a difference to a look-up.
-/
namespace Stencil.Record

variable {α : Type} {r : Record α} {e : String × α} {name : String} {value : α}

/-! ### Entries and look-ups -/

theorem get?_cons (e : String × α) (r : Record α) (name : String) :
    get? (e :: r) name = if name = e.1 then some e.2 else r.get? name := by
  rw [get?, List.lookup_cons]
  by_cases h : name = e.1
  · rw [if_pos h, beq_iff_eq.mpr h]
  · rw [if_neg h, beq_eq_false_iff_ne.mpr h]
    rfl

theorem mem_of_get? (h : r.get? name = some value) : (name, value) ∈ r := by
  obtain ⟨before, after, rfl, -⟩ := List.lookup_eq_some_iff.mp h
  exact List.mem_append_right before List.mem_cons_self

theorem get?_of_mem (hnames : r.names.Nodup) (h : e ∈ r) : r.get? e.1 = some e.2 := by
  induction r with
  | nil => cases h
  | cons f r ih =>
    obtain ⟨hnew, hrest⟩ := List.nodup_cons.mp hnames
    rw [get?_cons]
    rcases List.mem_cons.mp h with rfl | hlater
    · exact if_pos rfl
    · have hne : e.1 ≠ f.1 := fun hname => hnew (hname ▸ List.mem_map_of_mem hlater)
      rw [if_neg hne, ih hrest hlater]

theorem mem_iff_get? (hnames : r.names.Nodup) : e ∈ r ↔ r.get? e.1 = some e.2 :=
  ⟨get?_of_mem hnames, mem_of_get?⟩

theorem nodup_of_names (hnames : r.names.Nodup) : r.Nodup := List.Nodup.of_map Prod.fst hnames

/-- A search from the end finds the same value. -/
theorem get?_reverse (hnames : r.names.Nodup) (name : String) :
    get? r.reverse name = r.get? name := by
  have hback : (names r.reverse).Nodup := by
    rw [names, List.map_reverse, List.nodup_reverse]
    exact hnames
  refine Option.ext fun value => ?_
  calc
    get? r.reverse name = some value ↔ (name, value) ∈ r.reverse :=
      (mem_iff_get? (e := (name, value)) hback).symm
    _ ↔ (name, value) ∈ r := List.mem_reverse
    _ ↔ r.get? name = some value := mem_iff_get? (e := (name, value)) hnames

/-! ### Entries that are given -/

theorem insert_of_notMem {r : Record α} {name : String} (value : α) (h : name ∉ r.names) :
    r.insert name value = r ++ [(name, value)] := by
  induction r with
  | nil => rfl
  | cons e r ih =>
    rw [names, List.map_cons, List.mem_cons, not_or] at h
    rw [insert, beq_eq_false_iff_ne.mpr (Ne.symm h.1), if_neg Bool.false_ne_true, ih h.2]
    rfl

theorem insertAll_of_nodup {r : Record α} {entries : List (String × α)}
    (h : (names (r ++ entries)).Nodup) : r.insertAll entries = r ++ entries := by
  induction entries generalizing r with
  | nil => exact (List.append_nil r).symm
  | cons e entries ih =>
    have hnew : e.1 ∉ r.names := by
      rw [names, List.map_append, List.nodup_append] at h
      intro hmem
      exact h.2.2 e.1 hmem e.1 (List.mem_map_of_mem List.mem_cons_self) rfl
    have hstep : r ++ e :: entries = (r ++ [e]) ++ entries := by
      rw [List.append_assoc]
      rfl
    rw [hstep] at h ⊢
    rw [← ih h, insertAll, List.foldl_cons, insert_of_notMem e.2 hnew]
    rfl

/-- Entries with distinct names make a record as they are. -/
theorem ofList_of_nodup {entries : List (String × α)} (h : (names entries).Nodup) :
    ofList entries = entries :=
  insertAll_of_nodup (r := []) h

/-- Of records that are given one after the other, the last one that has a name gives its value. -/
theorem get?_ofList_flatten {rs : List (Record α)} (h : ∀ r ∈ rs, r.names.Nodup) (name : String) :
    get? (ofList rs.flatten) name = rs.reverse.findSome? fun r => r.get? name := by
  rw [get?_ofList]
  induction rs with
  | nil => rfl
  | cons r rs ih =>
    obtain ⟨hr, hrs⟩ := List.forall_mem_cons.mp h
    have hfirst : r.reverse.lookup name = r.get? name := get?_reverse hr name
    rw [List.flatten_cons, List.reverse_append, List.lookup_append, ih hrs, hfirst,
      List.reverse_cons, List.findSome?_append, List.findSome?_singleton]

end Stencil.Record
