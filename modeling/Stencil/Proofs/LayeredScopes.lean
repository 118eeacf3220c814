import Mathlib.Data.List.Induction
import Mathlib.Data.List.Nodup
import Mathlib.Logic.Function.Iterate
import Stencil.Scope

/-!
Chains of scopes. Whatever was bound and derived, a chain behaves as one map: each name has the value
last given to it in the innermost layer that has the name, and the names are listed in the order in
which they were first given, innermost layer first. The history of a chain keeps everything that was
given, so that the order and the values can be compared with it.
-/
namespace Stencil

namespace Record

variable {α : Type}

/-! ### Names at their first places -/

theorem eraseDups_concat (l : List String) (name : String) :
    (l ++ [name]).eraseDups = if name ∈ l then l.eraseDups else l.eraseDups ++ [name] := by
  rw [List.eraseDups_append, List.removeAll]
  by_cases h : name ∈ l
  · rw [if_pos h, List.filter_cons_of_neg (by simpa using h), List.filter_nil, List.eraseDups_nil,
      List.append_nil]
  · rw [if_neg h, List.filter_cons_of_pos (by simpa using h), List.filter_nil, List.eraseDups_cons,
      List.filter_nil, List.eraseDups_nil]

theorem nodup_eraseDups (l : List String) : l.eraseDups.Nodup := by
  induction l using List.reverseRecOn with
  | nil => exact List.nodup_nil
  | append_singleton l name ih =>
    rw [eraseDups_concat]
    by_cases h : name ∈ l
    · rwa [if_pos h]
    · rw [if_neg h, ← List.concat_eq_append]
      exact List.Nodup.concat (fun hmem => h (List.mem_eraseDups.mp hmem)) ih

/-- The names of a second list that are not in the first one stay in their order behind it. -/
theorem eraseDups_append_filter (l m : List String) :
    l.eraseDups ++ m.eraseDups.filter (fun name => !l.eraseDups.contains name) =
      (l ++ m).eraseDups := by
  induction m using List.reverseRecOn with
  | nil => simp
  | append_singleton m name ih =>
    rw [← List.append_assoc, eraseDups_concat, eraseDups_concat, ← ih]
    by_cases hm : name ∈ m
    · rw [if_pos hm, if_pos (List.mem_append_right l hm)]
    · by_cases hl : name ∈ l
      · rw [if_neg hm, if_pos (List.mem_append_left m hl), List.filter_append,
          List.filter_cons_of_neg (by simpa using hl), List.filter_nil, List.append_nil]
      · have hnew : name ∉ l ++ m := fun h => (List.mem_append.mp h).elim hl hm
        rw [if_neg hm, if_neg hnew, List.filter_append,
          List.filter_cons_of_pos (by simpa using hl), List.filter_nil, List.append_assoc]

/-! ### Records as they are given -/

theorem ofList_concat (entries : List (String × α)) (e : String × α) :
    ofList (entries ++ [e]) = (ofList entries).insert e.1 e.2 := by
  rw [ofList, insertAll, List.foldl_append]
  rfl

/-- The value of a name is the one last given. -/
theorem get?_ofList (entries : List (String × α)) (name : String) :
    get? (ofList entries) name = entries.reverse.lookup name := by
  induction entries using List.reverseRecOn with
  | nil => rfl
  | append_singleton entries e ih =>
    rw [ofList_concat, get?_insert, ih, List.reverse_concat, List.lookup_cons]
    by_cases h : name = e.1
    · rw [if_pos h, beq_iff_eq.mpr h]
    · rw [if_neg h, beq_eq_false_iff_ne.mpr h]

theorem names_insert (r : Record α) (name : String) (value : α) :
    names (insert name value r) = if name ∈ names r then names r else names r ++ [name] := by
  induction r with
  | nil => rfl
  | cons e r ih =>
    obtain ⟨k, v⟩ := e
    by_cases hk : k = name
    · have hmem : name ∈ names ((k, v) :: r) := hk ▸ List.mem_cons_self
      rw [if_pos hmem, insert, if_pos (beq_iff_eq.mpr hk)]
      rfl
    · have hmem : name ∈ names ((k, v) :: r) ↔ name ∈ names r := by
        simp [names, Ne.symm hk]
      rw [insert, if_neg (by simpa using hk)]
      show k :: names (insert name value r) = _
      rw [ih]
      simp only [hmem]
      by_cases h : name ∈ names r
      · rw [if_pos h, if_pos h]
        rfl
      · rw [if_neg h, if_neg h]
        rfl

/-- Names keep the places at which they were first given. -/
theorem names_ofList (entries : List (String × α)) :
    names (ofList entries) = (entries.map Prod.fst).eraseDups := by
  induction entries using List.reverseRecOn with
  | nil => rfl
  | append_singleton entries e ih =>
    rw [ofList_concat, names_insert, ih, List.map_append, List.map_singleton, eraseDups_concat]
    simp only [List.mem_eraseDups]

end Record

namespace Scope

variable {s t : Scope} {name : String} {value : Value}

/-! ### All scopes -/

theorem mem_addNames (names : List String) (layer : Record Value) :
    name ∈ addNames names layer ↔ name ∈ names ∨ name ∈ Record.names layer := by
  rw [addNames, List.mem_append, List.mem_filter]
  by_cases h : name ∈ names
  · simp [h]
  · simp [h]

theorem mem_foldl_addNames (names : List String) (layers : List (Record Value)) :
    name ∈ layers.foldl addNames names ↔
      name ∈ names ∨ ∃ layer ∈ layers, name ∈ Record.names layer := by
  induction layers generalizing names with
  | nil => simp
  | cons layer layers ih =>
    rw [List.foldl_cons, ih, mem_addNames, or_assoc]
    simp only [List.mem_cons, exists_eq_or_imp]

/-- A name is visible if some layer has it. -/
theorem mem_names_iff : name ∈ s.names ↔ ∃ layer ∈ s.layers, name ∈ Record.names layer := by
  rw [names, mem_foldl_addNames]
  simp

theorem mem_recordNames_iff (layer : Record Value) :
    name ∈ Record.names layer ↔ (Record.get? layer name).isSome = true := by
  rw [Record.get?, List.lookup_isSome_iff, Record.names, List.mem_map]
  simp only [beq_iff_eq]
  constructor
  · rintro ⟨e, he, rfl⟩
    exact ⟨e, he, rfl⟩
  · rintro ⟨e, he, rfl⟩
    exact ⟨e, he, rfl⟩

theorem mem_names_iff_contains : name ∈ s.names ↔ s.contains name = true := by
  rw [mem_names_iff, contains, get?, List.findSome?_isSome_iff]
  simp only [mem_recordNames_iff]

theorem isEmpty_iff : s.isEmpty = true ↔ s.size = 0 := by
  rw [isEmpty, size, List.length_eq_zero_iff, List.eq_nil_iff_forall_not_mem, List.all_eq_true]
  simp only [mem_names_iff, List.isEmpty_iff]
  constructor
  · rintro hall name ⟨layer, hlayer, hname⟩
    rw [hall layer hlayer] at hname
    cases hname
  · intro hnone layer hlayer
    cases layer with
    | nil => rfl
    | cons e layer => exact absurd ⟨_, hlayer, List.mem_cons_self⟩ (hnone e.1)

theorem get?_derive (s : Scope) (name : String) (value : Value) (other : String) :
    (s.derive name value).get? other = if other = name then some value else s.get? other := by
  rw [get?, derive, layers, List.findSome?_cons, Record.get?, List.lookup_cons]
  by_cases h : other = name
  · rw [if_pos h, beq_iff_eq.mpr h]
  · rw [if_neg h, beq_eq_false_iff_ne.mpr h]
    rfl

/-! ### Chains -/

/-- A way to go on with a scope: another binding, or a derived scope with one. -/
inductive Extension where
  | insert (name : String) (value : Value)
  | derive (name : String) (value : Value)

def extend (s : Scope) : Extension → Scope
  | .insert name value => s.insert name value
  | .derive name value => s.derive name value

def grow (s : Scope) (steps : List Extension) : Scope := steps.foldl extend s

/-- What was given in the innermost layer and in the others, in the order in which it was given. -/
structure History where
  current : List (String × Value)
  outer : List (List (String × Value))

namespace History

/-- All that was given, innermost layer first. -/
def layers (h : History) : List (List (String × Value)) := h.current :: h.outer

def extend (h : History) : Extension → History
  | .insert name value => { h with current := h.current ++ [(name, value)] }
  | .derive name value => ⟨[(name, value)], h.layers⟩

/-- The history of a chain that starts with the given entries. -/
def ofSteps (entries : List (String × Value)) (steps : List Extension) : History :=
  steps.foldl extend ⟨entries, []⟩

def scope (h : History) : Scope := ⟨Record.ofList h.current, h.outer.map Record.ofList⟩

theorem scope_extend (h : History) (step : Extension) :
    (h.extend step).scope = h.scope.extend step := by
  cases step with
  | insert name value =>
    show Scope.mk (Record.ofList (h.current ++ [(name, value)])) _ = _
    rw [Record.ofList_concat]
    rfl
  | derive name value => rfl

theorem scope_foldl_extend (h : History) (steps : List Extension) :
    (steps.foldl extend h).scope = h.scope.grow steps := by
  induction steps generalizing h with
  | nil => rfl
  | cons step steps ih =>
    rw [List.foldl_cons, ih, scope_extend]
    rfl

theorem scope_ofSteps (entries : List (String × Value)) (steps : List Extension) :
    (ofSteps entries steps).scope = (root (Record.ofList entries)).grow steps :=
  scope_foldl_extend ⟨entries, []⟩ steps

theorem layers_scope (h : History) : h.scope.layers = h.layers.map Record.ofList := rfl

/-- A name has the value last given to it in the innermost layer that has it. -/
theorem get?_scope (h : History) (name : String) :
    h.scope.get? name = h.layers.findSome? fun given => given.reverse.lookup name := by
  have hlayer : (Record.get? · name) ∘ Record.ofList =
      fun given : List (String × Value) => given.reverse.lookup name := by
    funext given
    exact Record.get?_ofList given name
  rw [Scope.get?, layers_scope, List.findSome?_map, hlayer]

/-- Names are collected as if all layers were one list; `l` is what stands in front of the layers that
are left. -/
theorem foldl_addNames_map (l : List String) (given : List (List (String × Value))) :
    (given.map Record.ofList).foldl addNames l.eraseDups =
      (l ++ given.flatten.map Prod.fst).eraseDups := by
  induction given generalizing l with
  | nil => simp
  | cons layer given ih =>
    rw [List.map_cons, List.foldl_cons, addNames, Record.names_ofList,
      Record.eraseDups_append_filter, ih, List.flatten_cons, List.map_append, List.append_assoc]

theorem names_scope (h : History) :
    h.scope.names = (h.layers.flatten.map Prod.fst).eraseDups :=
  foldl_addNames_map [] h.layers

end History

/-! ### Leaving derived scopes -/

/-- Going on with a derived scope leaves the scopes around it as they are. -/
theorem outer_grow {inner : List (Record Value)} (h : t.outer = inner ++ s.layers)
    (steps : List Extension) : ∃ inner', (t.grow steps).outer = inner' ++ s.layers := by
  induction steps generalizing t inner with
  | nil => exact ⟨inner, h⟩
  | cons step steps ih =>
    cases step with
    | insert name value => exact ih h
    | derive name value =>
      -- the layer that was innermost becomes one of those around the new one
      have h' : (t.derive name value).outer = (t.bindings :: inner) ++ s.layers := by
        show t.bindings :: t.outer = _
        rw [h]
        rfl
      exact ih h'

theorem iterate_leave {inner : List (Record Value)} (h : t.outer = inner ++ s.layers) :
    leave^[inner.length + 1] t = s := by
  induction inner generalizing t with
  | nil =>
    show t.leave = s
    rw [leave, h]
    rfl
  | cons bindings inner ih =>
    rw [List.length_cons, Function.iterate_succ_apply]
    refine ih ?_
    rw [leave, h]
    rfl

/-- Whatever happens in a derived scope, leaving all that was derived gives the scope back. -/
theorem leave_grow_derive (s : Scope) (name : String) (value : Value) (more : List Extension) :
    leave^[((s.derive name value).grow more).depth - s.depth] ((s.derive name value).grow more) =
      s := by
  have hbase : (s.derive name value).outer = [] ++ s.layers := rfl
  obtain ⟨inner, h⟩ := outer_grow hbase more
  have hdepth : ((s.derive name value).grow more).depth - s.depth = inner.length + 1 := by
    rw [depth, depth, h, List.length_append, layers, List.length_cons]
    omega
  rw [hdepth]
  exact iterate_leave h

/-! ### One map -/

/-- A chain that was built from a root by inserting and deriving behaves as one map. A name has the
value last given in the innermost layer that has the name; the names are exactly the bound ones, each
once and in the order in which they were first given, innermost layer first; size and emptiness count
them; deriving changes what one name means, and leaving what was derived changes it back. -/
theorem grow_behaves_as_one_map (entries : List (String × Value)) (steps : List Extension) :
    let s := (root (Record.ofList entries)).grow steps
    let given := (History.ofSteps entries steps).layers
    (∀ name, s.get? name = given.findSome? fun layer => layer.reverse.lookup name) ∧
      s.names = (given.flatten.map Prod.fst).eraseDups ∧
      s.names.Nodup ∧
      (∀ name, name ∈ s.names ↔ s.contains name = true) ∧
      s.size = s.names.length ∧
      (s.isEmpty = true ↔ s.size = 0) ∧
      (∀ name value other,
        (s.derive name value).get? other = if other = name then some value else s.get? other) ∧
      ∀ name value more,
        leave^[((s.derive name value).grow more).depth - s.depth]
          ((s.derive name value).grow more) = s := by
  intro s given
  have hs : (History.ofSteps entries steps).scope = s := History.scope_ofSteps entries steps
  have hget : ∀ name, s.get? name = given.findSome? fun layer => layer.reverse.lookup name := by
    intro name
    rw [← hs]
    exact History.get?_scope _ name
  have hnames : s.names = (given.flatten.map Prod.fst).eraseDups := by
    rw [← hs]
    exact History.names_scope _
  have hnodup : s.names.Nodup := by
    rw [hnames]
    exact Record.nodup_eraseDups _
  exact ⟨hget, hnames, hnodup, fun _ => mem_names_iff_contains, rfl, isEmpty_iff,
    get?_derive s, leave_grow_derive s⟩

example :
    let s := (root (Record.ofList [("a", .int 1), ("b", .int 2)])).grow
      [.insert "a" (.int 3), .derive "b" (.int 4), .insert "c" .null]
    s.names = ["b", "c", "a"] ∧ s.size = 3 := by
  constructor <;> rfl

end Scope

end Stencil
