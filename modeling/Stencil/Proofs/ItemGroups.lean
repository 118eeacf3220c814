import Stencil.Library.Sequence
import Stencil.Proofs.DistinctNames

/-!
Items in groups. Adding an item to its group changes that group alone, so that by induction over the
items every group holds the items that belong to it, in their order, and all groups together hold
every item as often as it is there. The groups stand in the order in which their names first appear.
-/
namespace Stencil.Library.Sequence

open Record (names)

variable {key : String} {items : List Value} {g : String × List Value}

/-! ### One more item -/

theorem groups_concat (key : String) (items : List Value) (v : Value) :
    groups key (items ++ [v]) = addToGroup key (groups key items) v := by
  rw [groups, List.foldl_append]
  rfl

/-- Together the groups hold one item more. -/
theorem perm_addToGroup (key : String) (gs : Record (List Value)) (v : Value) :
    ((addToGroup key gs v).flatMap Prod.snd).Perm (v :: gs.flatMap Prod.snd) := by
  rw [addToGroup]
  generalize groupOf key v = name
  induction gs with
  | nil => exact List.Perm.refl [v]
  | cons g gs ih =>
    obtain ⟨first, members⟩ := g
    rw [Record.get?_cons]
    by_cases hname : first = name
    · -- the item comes last in its group and in front of the groups behind it
      rw [if_pos hname.symm, Record.insert, if_pos (beq_iff_eq.mpr hname)]
      show (members ++ [v] ++ gs.flatMap Prod.snd).Perm _
      rw [List.append_assoc]
      exact List.perm_middle
    · rw [if_neg (Ne.symm hname), Record.insert, if_neg (by simpa using hname)]
      exact (ih.append_left members).trans List.perm_middle

/-! ### All items -/

theorem names_groups (key : String) (items : List Value) :
    names (groups key items) = (items.map (groupOf key)).eraseDups := by
  induction items using List.reverseRecOn with
  | nil => rfl
  | append_singleton items v ih =>
    rw [groups_concat, addToGroup, Record.names_insert, ih, List.map_append, List.map_singleton,
      Record.eraseDups_concat]
    simp only [List.mem_eraseDups]

/-- The group of a name holds the items that belong there. -/
theorem members_groups (key : String) (items : List Value) (name : String) :
    (Record.get? (groups key items) name).getD [] =
      items.filter fun v => groupOf key v == name := by
  induction items using List.reverseRecOn with
  | nil => rfl
  | append_singleton items v ih =>
    rw [groups_concat, addToGroup, Record.get?_insert, List.filter_append]
    by_cases hname : name = groupOf key v
    · subst hname
      rw [if_pos rfl, ih, List.filter_cons_of_pos (by simp)]
      rfl
    · rw [if_neg hname, ih, List.filter_cons_of_neg (by simpa using Ne.symm hname),
        List.filter_nil, List.append_nil]

theorem perm_groups (key : String) (items : List Value) :
    ((groups key items).flatMap Prod.snd).Perm items := by
  induction items using List.reverseRecOn with
  | nil => exact List.Perm.refl []
  | append_singleton items v ih =>
    rw [groups_concat]
    have hstep := (perm_addToGroup key (groups key items) v).trans (ih.cons v)
    exact hstep.trans (List.perm_append_singleton v items).symm

theorem nodup_names_groups (key : String) (items : List Value) :
    (names (groups key items)).Nodup := by
  rw [names_groups]
  exact Record.nodup_eraseDups _

theorem members_of_mem (h : g ∈ groups key items) :
    g.2 = items.filter fun v => groupOf key v == g.1 := by
  rw [← members_groups, Record.get?_of_mem (nodup_names_groups key items) h, Option.getD_some]

theorem members_ne_nil (h : g ∈ groups key items) : g.2 ≠ [] := by
  have hname : g.1 ∈ names (groups key items) := List.mem_map_of_mem h
  rw [names_groups, List.mem_eraseDups] at hname
  obtain ⟨v, hv, hgroup⟩ := List.mem_map.mp hname
  rw [members_of_mem h]
  exact List.ne_nil_of_mem (List.mem_filter.mpr ⟨hv, beq_iff_eq.mpr hgroup⟩)

theorem mem_members_iff {v : Value} (h : g ∈ groups key items) (hv : v ∈ items) :
    v ∈ g.2 ↔ groupOf key v = g.1 := by
  rw [members_of_mem h, List.mem_filter, beq_iff_eq]
  exact and_iff_right hv

/-- An item lies in the group of its own name and in no other. -/
theorem existsUnique_group {v : Value} (hv : v ∈ items) :
    ∃ g ∈ groups key items, v ∈ g.2 ∧ ∀ h ∈ groups key items, v ∈ h.2 → h = g := by
  have hname : groupOf key v ∈ names (groups key items) := by
    rw [names_groups, List.mem_eraseDups]
    exact List.mem_map_of_mem hv
  obtain ⟨g, hg, hgroup⟩ := List.mem_map.mp hname
  refine ⟨g, hg, (mem_members_iff hg hv).mpr hgroup.symm, fun h hh hmem => ?_⟩
  have hsame : h.1 = g.1 := ((mem_members_iff hh hv).mp hmem).symm.trans hgroup.symm
  exact List.inj_on_of_nodup_map (nodup_names_groups key items) hh hg hsame

/-- Grouping is an ordered partition: the names are those of the items' groups in the order in which
they first appear, each group holds exactly the items that belong to it, in their order, and at
least one, and every item lies in exactly one group, as often as it is there. -/
theorem groupBy_partition (items : List Value) (key : Value) :
    ∃ gs : Record (List Value),
      groupBy [.seq items, key] = .ok (.map (gs.map fun g => (g.1, .seq g.2))) ∧
      names gs = (items.map (groupOf key.text)).eraseDups ∧ (names gs).Nodup ∧
      (∀ g ∈ gs, g.2 = (items.filter fun v => groupOf key.text v == g.1) ∧ g.2 ≠ []) ∧
      (∀ v ∈ items, ∃ g ∈ gs, v ∈ g.2 ∧ ∀ h ∈ gs, v ∈ h.2 → h = g) ∧
      (gs.flatMap Prod.snd).Perm items := by
  refine ⟨groups key.text items, rfl, names_groups _ items, nodup_names_groups _ items, ?_, ?_,
    perm_groups _ items⟩
  · exact fun g hg => ⟨members_of_mem hg, members_ne_nil hg⟩
  · exact fun v hv => existsUnique_group hv

/-- Maps with the field and without it, sequences and a text. -/
def mixedItems : List Value :=
  [.map [("0", .int 1)], .seq [.string "1"], .string "x", .map [("1", .null)], .seq [.int 1]]

/-- An integer, a text and a missing field, of maps, sequences and a text, by one key. -/
theorem groupBy_partition_mixedItems :
    ∃ gs : Record (List Value),
      groupBy [.seq mixedItems, .int 0] = .ok (.map (gs.map fun g => (g.1, .seq g.2))) ∧
      names gs = ["1", ""] ∧
      (∃ g ∈ gs, .string "x" ∈ g.2 ∧ ∀ h ∈ gs, .string "x" ∈ h.2 → h = g) ∧
      (gs.flatMap Prod.snd).Perm mixedItems := by
  obtain ⟨gs, hgroup, hnames, -, -, hunique, hperm⟩ := groupBy_partition mixedItems (.int 0)
  have hfirst : (mixedItems.map (groupOf (Value.int 0).text)).eraseDups = ["1", ""] := by decide
  have hx : Value.string "x" ∈ mixedItems := by simp [mixedItems]
  exact ⟨gs, hgroup, hnames.trans hfirst, hunique _ hx, hperm⟩

end Stencil.Library.Sequence
