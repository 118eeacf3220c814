import Stencil.Proofs.PartedLists
import Stencil.Proofs.ValueOrder
import Stencil.Library.Sequence

/-!
Sorting a sequence of values, by themselves or by a field. Comparing neighbours is enough to find
out whether all keys have an order, and the keys that have one are the nulls, the booleans, the
strings or the numbers other than the value that is not a number. The items are then put into the
order of their keys, and items with equal keys stay in their order, unless the order contradicts
itself.
-/
namespace Stencil

namespace Number

variable {a b : Number}

theorem exists_compare?_iff :
    (∃ o, a.compare? b = some o) ↔ a.isNaN = false ∧ b.isNaN = false := by
  have hplace (n : Number) : n.isNaN = n.place?.isNone := rfl
  rcases ints_or_isFloat a b with ⟨m, n, rfl, rfl⟩ | hfloat
  · rw [hplace, hplace, place?_int, place?_int]
    exact ⟨fun _ => ⟨rfl, rfl⟩, fun _ => ⟨_, rfl⟩⟩
  · rw [compare?_of_isFloat hfloat, hplace, hplace]
    cases a.place? <;> cases b.place? <;> simp

end Number

namespace Value

variable {a b : Value}

/-- The kind of a value that can be compared with the values of that kind. -/
def orderKind? : Value → Option Kind
  | .number n => if n.isNaN then none else some .number
  | .null => some .null
  | .bool _ => some .boolean
  | .string _ => some .string
  | _ => none

theorem orderKind?_eq_some_iff {kind : Kind} :
    a.orderKind? = some kind ↔
      (kind = .null ∧ a = .null) ∨ (kind = .boolean ∧ ∃ b, a = .bool b) ∨
        (kind = .string ∧ ∃ s, a = .string s) ∨
        (kind = .number ∧ ∃ n : Number, a = .number n ∧ n.isNaN = false) := by
  cases a with
  | number n => cases hn : n.isNaN <;> cases kind <;> simp [orderKind?, hn]
  | _ => cases kind <;> simp [orderKind?]

theorem isOrdered_of_orderKind? {kind : Kind} (h : a.orderKind? = some kind) : a.IsOrdered := by
  cases a with
  | null | bool | number | string => simp [IsOrdered, Value.kind]
  | seq | map | function => contradiction

theorem exists_compare?_iff :
    (∃ o, a.compare? b = some o) ↔ ∃ k, a.orderKind? = some k ∧ b.orderKind? = some k := by
  cases a <;> cases b
  case number.number m n =>
    show (∃ o, m.compare? n = some o) ↔ _
    rw [Number.exists_compare?_iff]
    cases hm : m.isNaN <;> cases hn : n.isNaN <;> simp [orderKind?, hm, hn]
  all_goals simp [compare?, orderKind?]

end Value

namespace Library.Sequence

/-- Keys that have an order. -/
def Sortable (keys : List Value) : Prop :=
  (∀ k ∈ keys, k = .null) ∨ (∀ k ∈ keys, ∃ b, k = .bool b) ∨ (∀ k ∈ keys, ∃ s, k = .string s) ∨
    ∀ k ∈ keys, ∃ n : Number, k = .number n ∧ n.isNaN = false

/-- Keys of which three break the order: two integers in descending order that one float is equal
to. -/
def Contradictory (keys : List Value) : Prop :=
  ∃ m n x, .int m ∈ keys ∧ .int n ∈ keys ∧ .float x ∈ keys ∧
    n < m ∧ Number.Blurs m x ∧ Number.Blurs n x

/-- One list is the other in the order of its keys; items with equal keys keep their places. -/
structure StablySorted (keyOf : Value → Value) (items sorted : List Value) : Prop where
  perm : sorted.Perm items
  ascending : sorted.Pairwise fun v w => (keyOf v).AtMost (keyOf w)
  filter_eq : ∀ k ∈ items.map keyOf,
    sorted.filter (fun v => keyOf v == k) = items.filter fun v => keyOf v == k

/-- The field that items are sorted by, where a key other than null is given. -/
def fieldOf (key : Option Value) : Option String :=
  key.bind fun k => if k.isNull then none else some k.text

/-- What the items are sorted by. -/
def keysOf (key : Option Value) (items : List Value) : List Value :=
  items.map (sortKey (fieldOf key))

theorem sortable_iff {keys : List Value} :
    Sortable keys ↔ ∃ kind, ∀ k ∈ keys, k.orderKind? = some kind := by
  simp only [Value.orderKind?_eq_some_iff]
  constructor
  · rintro (hall | hall | hall | hall)
    · exact ⟨.null, fun k hk => .inl ⟨rfl, hall k hk⟩⟩
    · exact ⟨.boolean, fun k hk => .inr (.inl ⟨rfl, hall k hk⟩)⟩
    · exact ⟨.string, fun k hk => .inr (.inr (.inl ⟨rfl, hall k hk⟩))⟩
    · exact ⟨.number, fun k hk => .inr (.inr (.inr ⟨rfl, hall k hk⟩))⟩
  · rintro ⟨kind, hall⟩
    cases keys with
    | nil => exact .inl (List.forall_mem_nil _)
    | cons v rest =>
      -- The first key says which kind they all are of.
      rcases hall v List.mem_cons_self with ⟨rfl, -⟩ | ⟨rfl, -⟩ | ⟨rfl, -⟩ | ⟨rfl, -⟩
      · exact .inl fun k hk => by simpa using hall k hk
      · exact .inr (.inl fun k hk => by simpa using hall k hk)
      · exact .inr (.inr (.inl fun k hk => by simpa using hall k hk))
      · exact .inr (.inr (.inr fun k hk => by simpa using hall k hk))

theorem checkOrdered_eq_ok_iff {a b : Value} :
    checkOrdered a b = .ok () ↔ ∃ k, a.orderKind? = some k ∧ b.orderKind? = some k := by
  rw [checkOrdered, ← Value.exists_compare?_iff]
  cases a.compare? b <;> simp [complain]

/-- Comparing neighbours tells whether all keys are of the kind of the first one. -/
theorem checkNeighbours_eq_ok_iff {v : Value} {rest : List Value} {kind : Kind}
    (hv : v.orderKind? = some kind) :
    checkNeighbours (v :: rest) = .ok () ↔ ∀ w ∈ rest, w.orderKind? = some kind := by
  induction rest generalizing v with
  | nil => exact ⟨fun _ => List.forall_mem_nil _, fun _ => rfl⟩
  | cons w rest ih =>
    have hordered : checkOrdered v w = .ok () ↔ w.orderKind? = some kind := by
      rw [checkOrdered_eq_ok_iff, hv]
      simp
    rw [List.forall_mem_cons, ← hordered]
    show checkOrdered v w >>= (fun _ => checkNeighbours (w :: rest)) = .ok () ↔ _
    cases hcheck : checkOrdered v w with
    | error e =>
      constructor
      · intro h
        nomatch h
      · rintro ⟨h, -⟩
        nomatch h
    | ok u =>
      rw [← ih (hordered.mp hcheck)]
      exact ⟨fun h => ⟨rfl, h⟩, fun h => h.2⟩

theorem checkKeys_eq_ok_iff {keys : List Value} : checkKeys keys = .ok () ↔ Sortable keys := by
  rw [sortable_iff]
  cases keys with
  | nil => exact ⟨fun _ => ⟨.null, List.forall_mem_nil _⟩, fun _ => rfl⟩
  | cons v rest =>
    show checkNeighbours (v :: rest) >>= (fun _ => checkOrdered v v) = .ok () ↔ _
    cases hv : v.orderKind? with
    | none =>
      constructor
      · intro h
        cases hn : checkNeighbours (v :: rest) with
        | error e =>
          rw [hn] at h
          contradiction
        | ok u =>
          rw [hn] at h
          obtain ⟨kind, hkind, -⟩ := checkOrdered_eq_ok_iff.mp h
          rw [hv] at hkind
          contradiction
      · rintro ⟨kind, hall⟩
        rw [hall v List.mem_cons_self] at hv
        contradiction
    | some kind =>
      have hself : checkOrdered v v = .ok () := checkOrdered_eq_ok_iff.mpr ⟨kind, hv, hv⟩
      trans (checkNeighbours (v :: rest) = .ok ())
      · rw [hself]
        cases checkNeighbours (v :: rest) <;> rfl
      · rw [checkNeighbours_eq_ok_iff hv]
        constructor
        · intro hrest
          exact ⟨kind, List.forall_mem_cons.mpr ⟨hv, hrest⟩⟩
        · rintro ⟨kind', hall⟩
          obtain ⟨hv', hrest⟩ := List.forall_mem_cons.mp hall
          obtain rfl : kind = kind' := Option.some.inj (hv.symm.trans hv')
          exact hrest

theorem sortArgs_eq (items : List Value) (key : Option Value) :
    sortArgs (.seq items :: key.toList) =
      (checkKeys (keysOf key items)).map fun _ => (items, fieldOf key) := by
  have hargs : sortArgs (.seq items :: key.toList) =
      (checkKeys (keysOf key items) >>= fun _ => pure (items, fieldOf key)) := by
    cases key <;> rfl
  rw [hargs]
  cases checkKeys (keysOf key items) <;> rfl

theorem exists_error_of_not_sortable {items : List Value} {key : Option Value}
    (h : ¬ Sortable (keysOf key items)) :
    ∃ e, sort (.seq items :: key.toList) = .error (.error e) := by
  rw [sort, sortArgs_eq]
  cases hcheck : checkKeys (keysOf key items) with
  | error e => exact ⟨e, rfl⟩
  | ok u => exact absurd (checkKeys_eq_ok_iff.mp hcheck) h

theorem sort_of_sortable {items : List Value} {key : Option Value}
    (h : Sortable (keysOf key items)) :
    sort (.seq items :: key.toList) =
      match sorted (fieldOf key) items with
      | some r => .ok (.seq r)
      | none => .error (.abort (some contradiction)) := by
  rw [sort, sortArgs_eq, checkKeys_eq_ok_iff.mpr h]
  show (match sorted (fieldOf key) items with
    | some r => pure (.seq r)
    | none => throw (.abort (some contradiction)) : Except (Fault HelperError) Value) = _
  cases sorted (fieldOf key) items <;> rfl

/-! ### The order of the keys -/

section

variable {items : List Value} {name : Option String} {v w : Value}

theorem precedes_eq_false_iff (h : Sortable (items.map (sortKey name))) (hv : v ∈ items)
    (hw : w ∈ items) :
    precedes name w v = false ↔ (sortKey name v).AtMost (sortKey name w) := by
  obtain ⟨kind, hall⟩ := sortable_iff.mp h
  obtain ⟨o, ho⟩ := Value.exists_compare?_iff.mpr
    ⟨kind, hall _ (List.mem_map_of_mem hw), hall _ (List.mem_map_of_mem hv)⟩
  rw [precedes, Value.AtMost, Value.compare?_swap (sortKey name w) (sortKey name v), ho]
  cases o <;> decide

theorem orders_precedes (h : Sortable (items.map (sortKey name)))
    (hconsistent : ¬ Contradictory (items.map (sortKey name))) :
    Sorting.Orders (precedes name) (· ∈ items) where
  asymm ha hb hab := by
    rw [precedes, beq_iff_eq] at hab
    rw [precedes, Value.compare?_swap, hab]
    rfl
  trans ha hb hc hba hcb := by
    rw [precedes_eq_false_iff h ha hb] at hba
    rw [precedes_eq_false_iff h hb hc] at hcb
    rw [precedes_eq_false_iff h ha hc]
    by_contra hca
    obtain ⟨m, n, x, hm, hx, hn, hblurs⟩ := (Value.not_atMost_trans_iff _ _ _).mp ⟨hba, hcb, hca⟩
    exact hconsistent ⟨m, n, x, hm ▸ List.mem_map_of_mem ha, hn ▸ List.mem_map_of_mem hc,
      hx ▸ List.mem_map_of_mem hb, hblurs⟩

/-- Items are alike if their keys are equal. -/
theorem alike_precedes (h : Sortable (items.map (sortKey name))) (hv : v ∈ items) (hw : w ∈ items) :
    Sorting.alike (precedes name) v w = (sortKey name w == sortKey name v) := by
  obtain ⟨kind, hall⟩ := sortable_iff.mp h
  have hordered (u) (hu : u ∈ items) : (sortKey name u).IsOrdered :=
    Value.isOrdered_of_orderKind? (hall _ (List.mem_map_of_mem hu))
  rw [Bool.eq_iff_iff, Sorting.alike_iff, precedes_eq_false_iff h hw hv,
    precedes_eq_false_iff h hv hw]
  have hequal := Value.compare?_eq_iff (sortKey name w) (sortKey name v)
  rw [and_iff_right ⟨hordered w hw, hordered v hv⟩] at hequal
  rw [← hequal, Value.AtMost, Value.AtMost, Value.compare?_swap (sortKey name w) (sortKey name v)]
  cases (sortKey name w).compare? (sortKey name v) with
  | none => decide
  | some o => cases o <;> decide

theorem stablySorted_of_sorts (h : Sortable (items.map (sortKey name))) {r : List Value}
    (hsorts : Sorting.Sorts (precedes name) (· ∈ items) items r) :
    StablySorted (sortKey name) items r where
  perm := hsorts.perm
  ascending := hsorts.ordered.imp_of_mem fun hv hw hwv =>
    (precedes_eq_false_iff h (hsorts.mem_iff.mp hv) (hsorts.mem_iff.mp hw)).mp hwv
  filter_eq := by
    intro k hk
    obtain ⟨v, hv, rfl⟩ := List.mem_map.mp hk
    have hsame := hsorts.filter_alike v hv
    rwa [List.filter_congr fun w hw => alike_precedes h hv (hsorts.mem_iff.mp hw),
      List.filter_congr fun w hw => alike_precedes h hv hw] at hsame

/-- Keys that have an order and do not contradict themselves sort the items. -/
theorem exists_sorted (h : Sortable (items.map (sortKey name)))
    (hconsistent : ¬ Contradictory (items.map (sortKey name))) :
    ∃ r, sorted name items = some r ∧ StablySorted (sortKey name) items r := by
  obtain ⟨r, hr, hsorts⟩ :=
    Sorting.isSort_sortBy (orders_precedes h hconsistent) items fun _ hv => hv
  exact ⟨r, hr, stablySorted_of_sorts h hsorts⟩

end

/-- A sort gives an error unless the keys have an order. It gives the items in that order, those
with equal keys as they were, unless a float among the keys is equal to two integers among them;
with more than twenty items, it may then end everything. -/
theorem sort_stably (items : List Value) (key : Option Value) :
    ((∃ e, sort (.seq items :: key.toList) = .error (.error e)) ↔ ¬ Sortable (keysOf key items)) ∧
    (Sortable (keysOf key items) →
      (∃ r, sort (.seq items :: key.toList) = .ok (.seq r)) ∨
        sort (.seq items :: key.toList) = .error (.abort (some contradiction)) ∧
          Contradictory (keysOf key items) ∧ 20 < items.length) ∧
    (Sortable (keysOf key items) → ¬ Contradictory (keysOf key items) →
      ∃ r, sort (.seq items :: key.toList) = .ok (.seq r) ∧
        StablySorted (sortKey (fieldOf key)) items r) ∧
    ((∀ x, .float x ∉ keysOf key items) → ¬ Contradictory (keysOf key items)) := by
  refine ⟨?_, fun h => ?_, fun h hconsistent => ?_, fun hints => ?_⟩
  · refine ⟨?_, exists_error_of_not_sortable⟩
    rintro ⟨e, he⟩ h
    rw [sort_of_sortable h] at he
    cases hsorted : sorted (fieldOf key) items with
    | some r =>
      rw [hsorted] at he
      contradiction
    | none =>
      rw [hsorted] at he
      nomatch Except.error.inj he
  · rw [sort_of_sortable h]
    cases hsorted : sorted (fieldOf key) items with
    | some r => exact .inl ⟨r, rfl⟩
    | none =>
      refine .inr ⟨rfl, ?_, ?_⟩
      · by_contra hconsistent
        obtain ⟨r, hr, -⟩ := exists_sorted h hconsistent
        rw [hsorted] at hr
        contradiction
      · by_contra hshort
        have hsome := Sorting.isSome_sortBy (precedes (fieldOf key)) (Nat.le_of_not_lt hshort)
        rw [show Sorting.sortBy (precedes (fieldOf key)) items = none from hsorted] at hsome
        contradiction
  · obtain ⟨r, hr, hstable⟩ := exists_sorted h hconsistent
    rw [sort_of_sortable h, hr]
    exact ⟨r, rfl, hstable⟩
  · rintro ⟨m, n, x, -, -, hx, -⟩
    exact hints x hx

/-- Three items by a field, of which the first and the last are alike. -/
theorem sort_stably_byField :
    let items := [.map [("a", .int 2), ("b", .int 0)], .map [("a", .int 1)], .map [("a", .int 2)]]
    let key := some (.string "a")
    Sortable (keysOf key items) ∧ (∀ x, .float x ∉ keysOf key items) ∧
      ∃ r, sort (.seq items :: key.toList) = .ok (.seq r) ∧
        StablySorted (sortKey (fieldOf key)) items r := by
  intro items key
  have hkeys : keysOf key items = [.int 2, .int 1, .int 2] := rfl
  have hsortable : Sortable (keysOf key items) :=
    sortable_iff.mpr ⟨.number, by decide +kernel⟩
  have hints : ∀ x, .float x ∉ keysOf key items := by
    intro x hx
    rw [hkeys] at hx
    simp [Value.float, Value.int] at hx
  have hresult := sort_stably items key
  exact ⟨hsortable, hints, hresult.2.2.1 hsortable (hresult.2.2.2 hints)⟩

/-- A float and the two integers that are equal to it, seven times. -/
def blurredItems : List Value :=
  (List.replicate 7
    [.int 9007199254740992, .float 9007199254740992, .int 9007199254740993]).flatten

/-- All items are numbers, and the sort ends everything. -/
theorem sort_blurredItems :
    Sortable (keysOf none blurredItems) ∧
      sort [.seq blurredItems] = .error (.abort (some contradiction)) := by
  have hsortable : Sortable (keysOf none blurredItems) :=
    sortable_iff.mpr ⟨.number, by decide +kernel⟩
  have hnone : sorted none blurredItems = none := Option.isNone_iff_eq_none.mp (by decide +kernel)
  refine ⟨hsortable, ?_⟩
  show sort (.seq blurredItems :: (none : Option Value).toList) = _
  rw [sort_of_sortable hsortable]
  show (match sorted none blurredItems with | some r => _ | none => _) = _
  rw [hnone]

end Library.Sequence

end Stencil
