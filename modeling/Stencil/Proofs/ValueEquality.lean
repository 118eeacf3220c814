import Stencil.Proofs.DistinctNames
import Stencil.Proofs.ValueOrder

/-!
When a value is equal to itself. The one number that differs from itself is the value that is not a
number, and no other value differs from itself unless it holds that one. The equality of maps does
not look at the order of their entries, so the same holds of two maps with the same entries.
-/
namespace Stencil

theorem Number.beq_self_iff (n : Number) : (n == n) = true ↔ n.isNaN = false := by
  have hbeq : (n == n) = (n.compare? n == some .eq) := rfl
  have hnan : n.isNaN = n.place?.isNone := rfl
  rw [hbeq, hnan, beq_iff_eq]
  cases n with
  | int k => simp [compare?, place?_int]
  | float x =>
    rw [compare?_of_isFloat (.inl ⟨x, rfl⟩)]
    cases (float x).place? <;> simp

namespace Value

variable {v : Value} {items : List Value} {entries other : Record Value}

/-! ### Parts -/

theorem beqItems_self_iff (items : List Value) :
    beqItems items items = true ↔ ∀ v ∈ items, (v == v) = true := by
  induction items with
  | nil => simp [beqItems]
  | cons v items ih =>
    rw [beqItems, Bool.and_eq_true, ih, List.forall_mem_cons]
    rfl

theorem entriesWithin_iff (entries other : Record Value) :
    entriesWithin entries other = true ↔
      ∀ e ∈ entries, ∃ w, other.get? e.1 = some w ∧ (e.2 == w) = true := by
  induction entries with
  | nil => simp [entriesWithin]
  | cons e entries ih =>
    obtain ⟨name, v⟩ := e
    rw [entriesWithin, Bool.and_eq_true, ih, List.forall_mem_cons]
    refine and_congr_left fun _ => ?_
    show _ ↔ ∃ w, other.get? name = some w ∧ (v == w) = true
    cases other.get? name with
    | none => simp
    | some w =>
      simp only [Option.some.injEq, exists_eq_left']
      rfl

/-- Two maps with the same entries are equal if the values in them are equal to themselves. -/
theorem beq_map_of_perm (h : entries.Perm other) (hnames : other.names.Nodup) :
    (map entries == map other) = true ↔ ∀ e ∈ other, (e.2 == e.2) = true := by
  have hbeq : (map entries == map other) =
      (entries.length == other.length && entriesWithin entries other) := rfl
  rw [hbeq, h.length_eq, beq_self_eq_true, Bool.true_and, entriesWithin_iff]
  constructor
  · intro hall e he
    obtain ⟨w, hget, heq⟩ := hall e (h.mem_iff.mpr he)
    rw [Record.get?_of_mem hnames he] at hget
    obtain rfl := Option.some.inj hget
    exact heq
  · intro hall e he
    have hmem := h.mem_iff.mp he
    exact ⟨e.2, Record.get?_of_mem hnames hmem, hall e hmem⟩

/-! ### Whole values -/

/-- A value that can be built: in every map in it the names are distinct. -/
inductive Proper : Value → Prop where
  | null : Proper .null
  | bool (b : Bool) : Proper (.bool b)
  | number (n : Number) : Proper (.number n)
  | string (s : String) : Proper (.string s)
  | seq (items : List Value) (hitems : ∀ v ∈ items, Proper v) : Proper (.seq items)
  | map (entries : List (String × Value)) (hnames : (Record.names entries).Nodup)
      (hentries : ∀ e ∈ entries, Proper e.2) : Proper (.map entries)
  | function (handle : Nat) : Proper (.function handle)

/-- The value that is not a number lies somewhere in a value. -/
inductive HoldsNaN : Value → Prop where
  | number (n : Number) (h : n.isNaN = true) : HoldsNaN (.number n)
  | item (items : List Value) (v : Value) (hv : v ∈ items) (h : HoldsNaN v) :
      HoldsNaN (.seq items)
  | entry (entries : List (String × Value)) (e : String × Value) (he : e ∈ entries)
      (h : HoldsNaN e.2) : HoldsNaN (.map entries)

theorem holdsNaN_number {n : Number} : HoldsNaN (.number n) ↔ n.isNaN = true :=
  ⟨fun h => by cases h; assumption, .number n⟩

theorem not_holdsNaN_seq : ¬ HoldsNaN (.seq items) ↔ ∀ v ∈ items, ¬ HoldsNaN v := by
  constructor
  · exact fun h v hv hnan => h (.item items v hv hnan)
  · rintro h (_ | ⟨_, v, hv, hnan⟩)
    exact h v hv hnan

theorem not_holdsNaN_map : ¬ HoldsNaN (.map entries) ↔ ∀ e ∈ entries, ¬ HoldsNaN e.2 := by
  constructor
  · exact fun h e he hnan => h (.entry entries e he hnan)
  · rintro h (_ | _ | ⟨_, e, he, hnan⟩)
    exact h e he hnan

theorem beq_self_iff (h : v.Proper) : (v == v) = true ↔ ¬ v.HoldsNaN := by
  induction h with
  | null => exact iff_of_true rfl (by rintro ⟨⟩)
  | bool b => exact iff_of_true (beq_self_eq_true b) (by rintro ⟨⟩)
  | number n =>
    rw [holdsNaN_number, Bool.not_eq_true]
    exact Number.beq_self_iff n
  | string s => exact iff_of_true (beq_self_eq_true s) (by rintro ⟨⟩)
  | seq items hitems ih =>
    have hbeq : (Value.seq items == .seq items) = beqItems items items := rfl
    rw [hbeq, beqItems_self_iff, not_holdsNaN_seq]
    exact forall₂_congr ih
  | map entries hnames hentries ih =>
    rw [beq_map_of_perm (.refl entries) hnames, not_holdsNaN_map]
    exact forall₂_congr ih
  | function handle => exact iff_of_true (beq_self_eq_true handle) (by rintro ⟨⟩)

end Value

end Stencil
