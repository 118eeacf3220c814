import Stencil.Proofs.AssignedPaths

/-!
Assigning and reading at one path. Whatever the value is like and however the segments are spelled,
what was assigned is read back, and of two assignments at one path only the later one counts. The
two recursions follow different rules for positions, but a position that an assignment finds is read
as the same one, and where it finds none, a map takes the place of what was there.
-/
namespace Stencil.Library.Object

variable {s : String} {items : List Value} {d u v w : Value} {path : List String}

/-! ### One segment -/

theorem slot?_eq_some_iff {i : Fin items.length} :
    slot? items s = some i ↔
      position? s.toList = some i.val ∧ (i.val : Int) ≤ Int64.maxValue.toInt := by
  unfold slot?
  constructor
  · intro h
    split at h
    · next n hn =>
      split at h
      · next hin =>
        obtain rfl := Option.some.inj h
        exact ⟨hn, hin.2⟩
      · contradiction
    · contradiction
  · rintro ⟨hposition, hmax⟩
    rw [hposition]
    exact dif_pos ⟨i.isLt, hmax⟩

/-- The slot of an item is found again when the item was replaced. -/
theorem slot?_set {i : Fin items.length} (h : slot? items s = some i) (w : Value) :
    slot? (items.set i w) s = some (i.cast List.length_set.symm) := by
  obtain ⟨hposition, hmax⟩ := slot?_eq_some_iff.mp h
  exact slot?_eq_some_iff.mpr ⟨hposition, hmax⟩

/-- A slot is looked up where it is assigned to. -/
theorem get?_seq_of_slot? {i : Fin items.length} (h : slot? items s = some i) :
    (Value.seq items).get? s = some (items.get i) := by
  obtain ⟨hposition, hmax⟩ := slot?_eq_some_iff.mp h
  rw [get?_seq_of_position? hposition, if_pos hmax]
  exact List.getElem?_eq_getElem i.isLt

/-- An assignment replaces an item of a sequence, or else gives an entry to a map. -/
theorem slot?_or_assign_eq (d : Value) (s : String) :
    (∃ items i, d = .seq items ∧ slot? items s = some i) ∨
      ∀ v rest, assign v d (s :: rest) =
        .map ((entriesOf d).insert s (assign v (((entriesOf d).get? s).getD .null) rest)) := by
  cases d with
  | seq items =>
    cases hslot : slot? items s with
    | some i => exact .inl ⟨items, i, rfl, hslot⟩
    | none => exact .inr fun v rest => assign_seq_of_lacks hslot rest
  | _ => exact .inr fun v rest => rfl

theorem get?_map_insert_self (entries : Record Value) (s : String) (w : Value) :
    (Value.map (entries.insert s w)).get? s = some w :=
  (Record.get?_insert entries s s w).trans (if_pos rfl)

/-! ### Whole paths -/

/-- What was assigned is at the end of the path. -/
theorem descend_assign (v d : Value) (path : List String) :
    descend (assign v d path) path = some v := by
  induction path generalizing d with
  | nil => rfl
  | cons s rest ih =>
    rcases slot?_or_assign_eq d s with ⟨items, i, rfl, hslot⟩ | hassign
    · rw [assign_seq_of_slot? hslot, descend, get?_seq_of_slot? (slot?_set hslot _),
        Option.bind_some]
      have hitem : (items.set i (assign v (items.get i) rest)).get (i.cast List.length_set.symm) =
          assign v (items.get i) rest := List.getElem_set_self _
      rw [hitem, ih]
    · rw [hassign, descend, get?_map_insert_self, Option.bind_some, ih]

/-- Of two assignments at one path the later one counts. -/
theorem assign_assign (u v d : Value) (path : List String) :
    assign v (assign u d path) path = assign v d path := by
  induction path generalizing d with
  | nil => rfl
  | cons s rest ih =>
    rcases slot?_or_assign_eq d s with ⟨items, i, rfl, hslot⟩ | hassign
    · rw [assign_seq_of_slot? hslot, assign_seq_of_slot? (slot?_set hslot _),
        assign_seq_of_slot? hslot]
      have hitem : (items.set i (assign u (items.get i) rest)).get (i.cast List.length_set.symm) =
          assign u (items.get i) rest := List.getElem_set_self _
      rw [hitem, ih]
      exact congrArg Value.seq (List.set_set _)
    · have hentry : ((entriesOf d).insert s
            (assign u (((entriesOf d).get? s).getD .null) rest)).get? s =
          some (assign u (((entriesOf d).get? s).getD .null) rest) :=
        get?_map_insert_self (entriesOf d) s _
      rw [hassign, hassign, assign_map, hentry, Option.getD_some, ih, Record.insert_insert]

theorem dataSet_of_ne_nil {p : String} (h : segments p ≠ []) :
    dataSet [d, .string p, v] = .ok (assign v d (segments p)) := by
  cases hsegments : segments p with
  | nil => exact absurd hsegments h
  | cons s rest => exact dataSet_eq hsegments

/-- An assignment at any path answers; the assigned value is then read at that path, and a value
assigned there before makes no difference. -/
theorem dataGet_dataSet_same (d u v : Value) (p : String) (h : segments p ≠ []) :
    (∃ d', dataSet [d, .string p, v] = .ok d' ∧ dataGet [d', .string p] = .ok v) ∧
      ∃ d', dataSet [d, .string p, u] = .ok d' ∧
        dataSet [d', .string p, v] = dataSet [d, .string p, v] := by
  constructor
  · refine ⟨_, dataSet_of_ne_nil h, ?_⟩
    show Except.ok ((descend (assign v d (segments p)) (segments p)).getD .null) = _
    rw [descend_assign]
    rfl
  · refine ⟨_, dataSet_of_ne_nil h, ?_⟩
    rw [dataSet_of_ne_nil h, dataSet_of_ne_nil h, assign_assign]

/-- A position with a sign and a zero in front leads to an item, and one below zero makes a map of
the sequence in it. -/
theorem dataGet_dataSet_same_signedPositions :
    segments ".xs..+01.-1" ≠ [] ∧
      (∃ d', dataSet [.seq [.int 1], .string ".xs..+01.-1", .int 9] = .ok d' ∧
        dataGet [d', .string ".xs..+01.-1"] = .ok (.int 9)) ∧
      ∃ d', dataSet [.map [("xs", .seq [.null, .seq [.null]])], .string ".xs..+01.-1", .int 8] =
          .ok d' ∧
        dataSet [d', .string ".xs..+01.-1", .int 9] =
          .ok (.map [("xs", .seq [.null, .map [("-1", .int 9)]])]) := by
  have hsegments : segments ".xs..+01.-1" ≠ [] := by decide
  have hlist : segments ".xs..+01.-1" = ["xs", "+01", "-1"] := by decide
  obtain ⟨hread, -⟩ :=
    dataGet_dataSet_same (.seq [.int 1]) .null (.int 9) ".xs..+01.-1" hsegments
  obtain ⟨-, d', hset, hagain⟩ :=
    dataGet_dataSet_same (.map [("xs", .seq [.null, .seq [.null]])]) (.int 8) (.int 9)
      ".xs..+01.-1" hsegments
  refine ⟨hsegments, hread, d', hset, hagain.trans ?_⟩
  rw [dataSet_of_ne_nil hsegments, hlist]
  rfl

end Stencil.Library.Object
