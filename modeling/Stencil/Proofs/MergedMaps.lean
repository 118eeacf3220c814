import Stencil.Library.Object
import Stencil.Proofs.ValueEquality

/-!
Maps that are taken apart and put together. The entries under some names and the entries under all
others are the entries of the map, and giving the ones to the others makes the map again, up to the
order of the entries. In a merge of any maps a name has the value that the last map gives to it, and
the place at which the first one has it.
-/
namespace Stencil.Library.Object

open Record (names)

variable {m : Record Value} {e : String × Value}

/-! ### Merging -/

theorem mergeFrom_maps (merged : Record Value) (i : Nat) (maps : List (Record Value)) :
    mergeFrom merged i (maps.map .map) = .ok (merged.insertAll maps.flatten) := by
  induction maps generalizing merged i with
  | nil => rfl
  | cons r maps ih =>
    rw [List.map_cons, mergeFrom, ih, Record.insertAll, Record.insertAll, ← List.foldl_append,
      List.flatten_cons]
    rfl

theorem merge_maps (maps : List (Record Value)) :
    merge (maps.map .map) = .ok (.map (Record.ofList maps.flatten)) := by
  rw [merge, mergeFrom_maps]
  rfl

/-! ### Entries under names -/

/-- The entries of a map under some names, each of them once. -/
def picked (m : Record Value) (keys : List String) : Record Value :=
  Record.ofList (keys.filterMap (entryAt m))

/-- The entries of a map under all other names. -/
def kept (m : Record Value) (keys : List String) : Record Value :=
  m.filter fun e => !keys.contains e.1

theorem map_fst_filterMap (m : Record Value) (keys : List String) :
    (keys.filterMap (entryAt m)).map Prod.fst = keys.filter fun name => m.contains name := by
  induction keys with
  | nil => rfl
  | cons name keys ih =>
    rw [List.filterMap_cons, List.filter_cons, Record.contains, entryAt]
    cases m.get? name with
    | none => exact ih
    | some v => exact congrArg (List.cons name) ih

theorem names_picked (m : Record Value) (keys : List String) :
    names (picked m keys) = (keys.filter fun name => m.contains name).eraseDups := by
  rw [picked, Record.names_ofList, map_fst_filterMap]

theorem nodup_names_picked (m : Record Value) (keys : List String) :
    (names (picked m keys)).Nodup := by
  rw [names_picked]
  exact Record.nodup_eraseDups _

theorem get?_filterMap (m : Record Value) (keys : List String) (name : String) :
    Record.get? (keys.filterMap (entryAt m)) name =
      if name ∈ keys then m.get? name else none := by
  induction keys with
  | nil => rfl
  | cons key keys ih =>
    rw [List.filterMap_cons, entryAt]
    by_cases hkey : name = key
    · subst hkey
      rw [if_pos List.mem_cons_self]
      cases hget : m.get? name with
      | none =>
        show Record.get? (keys.filterMap (entryAt m)) name = none
        rw [ih, hget, ite_self]
      | some v => exact (Record.get?_cons (name, v) _ name).trans (if_pos rfl)
    · have hmem : name ∈ key :: keys ↔ name ∈ keys := by simp [hkey]
      rw [if_congr hmem rfl rfl, ← ih]
      cases m.get? key with
      | none => rfl
      | some v => exact (Record.get?_cons (key, v) _ name).trans (if_neg hkey)

theorem get?_picked (m : Record Value) (keys : List String) (name : String) :
    Record.get? (picked m keys) name = if name ∈ keys then m.get? name else none := by
  rw [picked, Record.get?_ofList, ← List.filterMap_reverse]
  exact (get?_filterMap m keys.reverse name).trans (if_congr List.mem_reverse rfl rfl)

theorem mem_picked (hm : m.names.Nodup) (keys : List String) :
    e ∈ picked m keys ↔ e ∈ m ∧ e.1 ∈ keys := by
  rw [Record.mem_iff_get? (nodup_names_picked m keys), Record.mem_iff_get? hm, get?_picked]
  by_cases hkey : e.1 ∈ keys
  · rw [if_pos hkey]
    exact (and_iff_left hkey).symm
  · rw [if_neg hkey]
    constructor
    · intro h
      cases h
    · intro h
      exact absurd h.2 hkey

theorem mem_kept (keys : List String) : e ∈ kept m keys ↔ e ∈ m ∧ e.1 ∉ keys := by
  rw [kept, List.mem_filter]
  simp

theorem disjoint_names (m : Record Value) (keys : List String) :
    (names (kept m keys)).Disjoint (names (picked m keys)) := by
  intro name hkept hpicked
  obtain ⟨e, he, rfl⟩ := List.mem_map.mp hkept
  rw [names_picked, List.mem_eraseDups, List.mem_filter] at hpicked
  exact ((mem_kept keys).mp he).2 hpicked.1

/-- The two parts, one behind the other, have distinct names. -/
theorem nodup_names_append (hm : m.names.Nodup) (keys : List String) :
    (names (kept m keys ++ picked m keys)).Nodup := by
  have hkept : (names (kept m keys)).Nodup := hm.sublist (List.filter_sublist.map Prod.fst)
  rw [names, List.map_append]
  exact List.Nodup.append hkept (nodup_names_picked m keys) (disjoint_names m keys)

/-- The two parts hold the entries of the map. -/
theorem perm_append (hm : m.names.Nodup) (keys : List String) :
    (kept m keys ++ picked m keys).Perm m := by
  refine (List.perm_ext_iff_of_nodup (Record.nodup_of_names (nodup_names_append hm keys))
    (Record.nodup_of_names hm)).mpr fun e => ?_
  rw [List.mem_append, mem_kept, mem_picked hm]
  by_cases hkey : e.1 ∈ keys <;> simp [hkey]

/-! ### The helpers -/

theorem pick_seq (m : Record Value) (ks : List Value) :
    pick [.map m, .seq ks] = .ok (.map (picked m (ks.map Value.text))) := rfl

theorem without_seq (m : Record Value) (ks : List Value) :
    without [.map m, .seq ks] = .ok (.map (kept m (ks.map Value.text))) := rfl

/-- Giving the entries under some names to the others. -/
theorem merge_kept_picked (hm : m.names.Nodup) (keys : List String) :
    merge [.map (kept m keys), .map (picked m keys)] =
      .ok (.map (kept m keys ++ picked m keys)) := by
  have hmerge := merge_maps [kept m keys, picked m keys]
  have hflat : [kept m keys, picked m keys].flatten = kept m keys ++ picked m keys := by simp
  rw [hflat, Record.ofList_of_nodup (nodup_names_append hm keys)] at hmerge
  exact hmerge

/-- A map is parted by the names that are asked for, and put together again it has all of its
entries; it is equal to what it was unless the value that is not a number, which differs from
itself, lies in it. A merge of maps gives to each name the value that the last map with the name
gives to it, in the order in which the names first appear. -/
theorem merge_without_pick (hm : (Value.map m).Proper) (ks : List Value)
    {maps : List (Record Value)} (hmaps : ∀ r ∈ maps, r.names.Nodup) :
    (∃ apart rest whole : Record Value,
      pick [.map m, .seq ks] = .ok (.map apart) ∧
      without [.map m, .seq ks] = .ok (.map rest) ∧
      merge [.map rest, .map apart] = .ok (.map whole) ∧
      (names rest).Disjoint (names apart) ∧ rest.Sublist m ∧
      (∀ e, e ∈ apart ↔ e ∈ m ∧ e.1 ∈ ks.map Value.text) ∧
      (∀ e, e ∈ rest ↔ e ∈ m ∧ e.1 ∉ ks.map Value.text) ∧
      whole.Perm m ∧ ((Value.map whole == .map m) = true ↔ ¬ (Value.map m).HoldsNaN)) ∧
    ∃ all : Record Value,
      merge (maps.map .map) = .ok (.map all) ∧
      (∀ name, (Value.map all).get? name = maps.reverse.findSome? fun r => r.get? name) ∧
      names all = (maps.flatMap names).eraseDups := by
  constructor
  · cases hm with
    | map _ hnames hentries =>
      -- the parts joined have the entries of the map, so they are equal to it as it is to itself
      have hperm := perm_append hnames (ks.map Value.text)
      refine ⟨_, _, _, pick_seq m ks, without_seq m ks, merge_kept_picked hnames _,
        disjoint_names m _, List.filter_sublist, fun e => mem_picked hnames _,
        fun e => mem_kept _, hperm, ?_⟩
      rw [Value.beq_map_of_perm hperm hnames, ← Value.beq_map_of_perm (.refl m) hnames]
      exact Value.beq_self_iff (.map m hnames hentries)
  · refine ⟨_, merge_maps maps, fun name => Record.get?_ofList_flatten hmaps name, ?_⟩
    rw [Record.names_ofList, List.map_flatten]
    rfl

/-- A map with a map and a sequence in it. -/
def orderMap : Record Value :=
  [("id", .int 1), ("tags", .seq [.float 0.5]), ("more", .map [("id", .null)])]

theorem proper_orderMap : (Value.map orderMap).Proper := by
  have hmore : (Value.map [("id", .null)]).Proper :=
    .map _ (by decide) (List.forall_mem_singleton.mpr .null)
  have htags : (Value.seq [.float 0.5]).Proper :=
    .seq _ (List.forall_mem_singleton.mpr (.number _))
  refine .map _ (by decide) (List.forall_mem_cons.mpr ⟨.number _, ?_⟩)
  exact List.forall_mem_cons.mpr ⟨htags, List.forall_mem_singleton.mpr hmore⟩

/-- Names that are asked for twice and in vain, and a name in two of three maps. -/
theorem merge_without_pick_orderMap :
    ((Value.map orderMap).Proper ∧
      ∀ r ∈ [orderMap, [], [("new", .bool true), ("id", .int 2)]], (names r).Nodup) ∧
    (∃ apart rest whole : Record Value,
      pick [.map orderMap, .seq [.string "tags", .int 7, .string "tags"]] = .ok (.map apart) ∧
      without [.map orderMap, .seq [.string "tags", .int 7, .string "tags"]] = .ok (.map rest) ∧
      merge [.map rest, .map apart] = .ok (.map whole) ∧
      (Value.map whole == .map orderMap) = true) ∧
    ∃ all : Record Value,
      merge [.map orderMap, .map [], .map [("new", .bool true), ("id", .int 2)]] =
        .ok (.map all) ∧
      (Value.map all).get? "id" = some (.int 2) ∧ names all = ["id", "tags", "more", "new"] := by
  have hmaps : ∀ r ∈ [orderMap, [], [("new", .bool true), ("id", .int 2)]], (names r).Nodup := by
    decide
  have hself : ¬ (Value.map orderMap).HoldsNaN :=
    (Value.beq_self_iff proper_orderMap).mp rfl
  obtain ⟨⟨apart, rest, whole, hpick, hwithout, hwhole, -, -, -, -, -, heq⟩, all, hall, hget,
      hnames⟩ :=
    merge_without_pick proper_orderMap [.string "tags", .int 7, .string "tags"] hmaps
  exact ⟨⟨proper_orderMap, hmaps⟩, ⟨apart, rest, whole, hpick, hwithout, hwhole, heq.mpr hself⟩,
    all, hall, (hget "id").trans rfl, hnames.trans (by decide)⟩

/-- A map that holds the value that is not a number is put together again and differs from
itself. -/
theorem merge_without_pick_ne :
    ∃ apart rest whole : Record Value,
      pick [.map [("a", .float (0.0 / 0.0))], .seq []] = .ok (.map apart) ∧
      without [.map [("a", .float (0.0 / 0.0))], .seq []] = .ok (.map rest) ∧
      merge [.map rest, .map apart] = .ok (.map whole) ∧
      (Value.map whole == .map [("a", .float (0.0 / 0.0))]) = false := by
  refine ⟨[], [("a", .float (0.0 / 0.0))], [("a", .float (0.0 / 0.0))], rfl, rfl, rfl, ?_⟩
  rfl

end Stencil.Library.Object
