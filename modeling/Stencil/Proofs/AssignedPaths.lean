import Stencil.Library.Object
import Stencil.Proofs.ReadBack

/-!
Assigning at a path. What lies at another path, one that parts from it somewhere, stays as it was,
with one exception: where the paths part at a sequence in which the assigned path names no position,
the sequence gives way to a map with one entry, and nothing is left at the other path.
-/
namespace Stencil.Library.Object

open Decimal

/-- A segment that is no integer, or the position of an item in its one usual spelling. -/
def IsUsual (segment : String) : Prop :=
  whole? segment.toList = none ∨ ∃ n, segment.toList = digitChars n

/-- Two paths that differ in a segment which both have. -/
def Diverge (p q : List String) : Prop :=
  ∃ (i : Nat) (s t : String), p[i]? = some s ∧ q[i]? = some t ∧ s ≠ t

/-- Whether a value is a sequence without an item at the position that a segment names. -/
def lacks (v : Value) (segment : String) : Bool :=
  match v with
  | .seq items => (slot? items segment).isNone
  | _ => false

/-- Whether an assignment at the first path replaces the sequence at which the second parts from
it. -/
def displaces (v : Value) : List String → List String → Bool
  | s :: p, t :: q =>
    if s = t then
      match v.get? s with
      | some w => displaces w p q
      | none => false
    else lacks v s
  | _, _ => false

variable {segment s t : String} {items : List Value} {d v : Value} {p q p' q' shared : List String}
  {n : Nat}

/-! ### Segments -/

theorem position?_digitChars (n : Nat) : position? (digitChars n) = some n := by
  have hdigits : isPosition (digitChars n) = true := Value.isPosition_digitChars n
  have hread : natural? (digitChars n) = some n := by
    rw [natural?, ← isPosition, if_pos hdigits, Value.digitsValue_digitChars_eq]
  unfold position?
  split
  · next heq =>
    rw [heq, isPosition_cons] at hdigits
    exact absurd hdigits.1 (by decide)
  · exact hread

/-- What is no integer with a sign is no position with a plus in front. -/
theorem position?_of_whole? {s : List Char} (h : whole? s = none) : position? s = none := by
  have hdigits : natural? (splitSign s).2 = none := by
    rw [whole?] at h
    cases hsign : splitSign s with
    | mk negative digits =>
      rw [hsign] at h
      cases hread : natural? digits with
      | none => rfl
      | some k =>
        simp only [hread] at h
        contradiction
  unfold position?
  split
  · exact hdigits
  · next hplus =>
    unfold splitSign at hdigits
    split at hdigits
    · rfl
    · exact absurd rfl (hplus _)
    · exact hdigits

theorem slot?_of_whole? (hs : whole? segment.toList = none) : slot? items segment = none := by
  rw [slot?, position?_of_whole? hs]

theorem slot?_of_digitChars (hs : segment.toList = digitChars n) :
    slot? items segment =
      if h : n < items.length ∧ (n : Int) ≤ Int64.maxValue.toInt then some ⟨n, h.1⟩ else none := by
  rw [slot?, hs, position?_digitChars]

theorem get?_seq_of_whole? (hs : whole? segment.toList = none) :
    (Value.seq items).get? segment = none := by
  rw [Value.get?, word?, hs]
  rfl

/-- A position that can be assigned to is read as the same one. -/
theorem whole?_of_position? {s : List Char} (h : position? s = some n) : whole? s = some (n : Int) := by
  have hsign : natural? (splitSign s).2 = some n ∧ (splitSign s).1 = false := by
    unfold position? at h
    split at h
    · exact ⟨h, rfl⟩
    · next hplus =>
      unfold splitSign
      split
      · have hminus (rest : List Char) : natural? ('-' :: rest) = none := rfl
        rw [hminus] at h
        contradiction
      · exact absurd rfl (hplus _)
      · exact ⟨h, rfl⟩
  rw [whole?]
  cases hsplit : splitSign s with
  | mk negative digits =>
    rw [hsplit] at hsign
    obtain ⟨hread, rfl⟩ := hsign
    simp only [hread]
    rfl

/-- A position leads to the item there. Beyond 64 bits there is none. -/
theorem get?_seq_of_position? (hs : position? segment.toList = some n) :
    (Value.seq items).get? segment =
      if (n : Int) ≤ Int64.maxValue.toInt then items[n]? else none := by
  rw [Value.get?, word?, whole?_of_position? hs]
  have hmin : Int64.minValue.toInt ≤ (n : Int) := by
    have hmin : Int64.minValue.toInt = -2 ^ 63 := rfl
    omega
  by_cases hn : (n : Int) ≤ Int64.maxValue.toInt
  · have hint : (Int64.ofInt n).toInt = n := Int64.toInt_ofInt_of_le (by omega) (by
      have hmax : Int64.maxValue.toInt = 2 ^ 63 - 1 := rfl
      omega)
    simp only [if_pos (And.intro hmin hn), if_pos hn]
    show itemAt? items (Int64.ofInt n).toInt = _
    rw [hint, itemAt?, if_neg (by omega), if_neg (by omega), Int.toNat_natCast]
  · have hout : ¬(Int64.minValue.toInt ≤ (n : Int) ∧ (n : Int) ≤ Int64.maxValue.toInt) :=
      fun h => hn h.2
    simp only [if_neg hout, if_neg hn]
    rfl

theorem get?_seq_of_digitChars (hs : segment.toList = digitChars n) :
    (Value.seq items).get? segment =
      if (n : Int) ≤ Int64.maxValue.toInt then items[n]? else none :=
  get?_seq_of_position? (by rw [hs, position?_digitChars])

/-! ### One step of an assignment -/

theorem assign_map (entries : Record Value) (s : String) (rest : List String) :
    assign v (.map entries) (s :: rest) =
      .map (entries.insert s (assign v ((entries.get? s).getD .null) rest)) := rfl

theorem assign_seq_of_slot? {i : Fin items.length} (h : slot? items s = some i)
    (rest : List String) :
    assign v (.seq items) (s :: rest) = .seq (items.set i (assign v (items.get i) rest)) := by
  rw [assign]
  split
  · next j hj =>
    rw [h] at hj
    obtain rfl := Option.some.inj hj
    rfl
  · next hnone =>
    rw [h] at hnone
    contradiction

theorem assign_seq_of_lacks (h : slot? items s = none) (rest : List String) :
    assign v (.seq items) (s :: rest) = .map [(s, assign v .null rest)] := by
  rw [assign]
  simp only [h]
  rfl

/-- What is neither a sequence nor a map gives way to a map, as an empty map would. -/
theorem assign_of_get?_eq_none (hseq : ∀ items, d ≠ .seq items) (hmap : ∀ entries, d ≠ .map entries)
    (rest : List String) :
    assign v d (s :: rest) = .map [(s, assign v .null rest)] ∧ ∀ t, d.get? t = none := by
  cases d with
  | seq items => exact absurd rfl (hseq items)
  | map entries => exact absurd rfl (hmap entries)
  | null => exact ⟨rfl, fun _ => rfl⟩
  | bool b => exact ⟨rfl, fun _ => rfl⟩
  | number n => exact ⟨rfl, fun _ => rfl⟩
  | string t => exact ⟨rfl, fun _ => rfl⟩
  | function f => exact ⟨rfl, fun _ => rfl⟩

theorem get?_singleton (s t : String) (w : Value) :
    (Value.map [(s, w)]).get? t = if t = s then some w else none :=
  Record.get?_insert [] s t w

/-- What lies at the segment of an assignment is what the rest of the assignment makes of what lay
there. -/
theorem get?_assign_same (hs : IsUsual s) (rest : List String) :
    (assign v d (s :: rest)).get? s = some (assign v ((d.get? s).getD .null) rest) := by
  have hfresh : (Value.map [(s, assign v .null rest)]).get? s = some (assign v .null rest) := by
    rw [get?_singleton, if_pos rfl]
  by_cases hseq : ∃ items, d = .seq items
  · obtain ⟨items, rfl⟩ := hseq
    rcases hs with hword | ⟨n, hn⟩
    · rw [assign_seq_of_lacks (slot?_of_whole? hword), get?_seq_of_whole? hword, hfresh]
      rfl
    · by_cases hin : n < items.length ∧ (n : Int) ≤ Int64.maxValue.toInt
      · have hslot : slot? items s = some ⟨n, hin.1⟩ := by
          rw [slot?_of_digitChars hn, dif_pos hin]
        rw [assign_seq_of_slot? hslot, get?_seq_of_digitChars hn, get?_seq_of_digitChars hn,
          if_pos hin.2, if_pos hin.2, List.getElem?_set_self hin.1, List.getElem?_eq_getElem hin.1]
        rfl
      · have hslot : slot? items s = none := by
          rw [slot?_of_digitChars hn, dif_neg hin]
        have hnone : (Value.seq items).get? s = none := by
          rw [get?_seq_of_digitChars hn]
          split
          · next hmax =>
            exact List.getElem?_eq_none (Nat.le_of_not_lt fun hlt => hin ⟨hlt, hmax⟩)
          · rfl
        rw [assign_seq_of_lacks hslot, hnone, hfresh]
        rfl
  · by_cases hmap : ∃ entries, d = .map entries
    · obtain ⟨entries, rfl⟩ := hmap
      rw [assign_map]
      exact (Record.get?_insert entries s s _).trans (if_pos rfl)
    · obtain ⟨hassign, hget⟩ := assign_of_get?_eq_none (v := v) (s := s)
        (fun items h => hseq ⟨items, h⟩) (fun entries h => hmap ⟨entries, h⟩) rest
      rw [hassign, hget, hfresh]
      rfl

/-- Another segment leads to what it led to. -/
theorem get?_assign_other (hs : IsUsual s) (ht : IsUsual t) (hne : s ≠ t) (h : lacks d s = false)
    (rest : List String) : (assign v d (s :: rest)).get? t = d.get? t := by
  by_cases hseq : ∃ items, d = .seq items
  · obtain ⟨items, rfl⟩ := hseq
    rcases hs with hword | ⟨n, hn⟩
    · rw [lacks, slot?_of_whole? hword] at h
      contradiction
    · by_cases hin : n < items.length ∧ (n : Int) ≤ Int64.maxValue.toInt
      · have hslot : slot? items s = some ⟨n, hin.1⟩ := by
          rw [slot?_of_digitChars hn, dif_pos hin]
        rw [assign_seq_of_slot? hslot]
        rcases ht with hword | ⟨m, hm⟩
        · rw [get?_seq_of_whole? hword, get?_seq_of_whole? hword]
        · have hnm : n ≠ m := by
            rintro rfl
            exact hne (String.toList_inj.mp (hn.trans hm.symm))
          rw [get?_seq_of_digitChars hm, get?_seq_of_digitChars hm, List.getElem?_set_ne hnm]
      · rw [lacks, slot?_of_digitChars hn, dif_neg hin] at h
        contradiction
  · by_cases hmap : ∃ entries, d = .map entries
    · obtain ⟨entries, rfl⟩ := hmap
      rw [assign_map]
      exact (Record.get?_insert entries s t _).trans (if_neg hne.symm)
    · obtain ⟨hassign, hget⟩ := assign_of_get?_eq_none (v := v) (s := s)
        (fun items h => hseq ⟨items, h⟩) (fun entries h => hmap ⟨entries, h⟩) rest
      rw [hassign, hget, get?_singleton, if_neg hne.symm]

/-- Where a sequence gives way to a map, no other segment leads anywhere. -/
theorem get?_assign_of_lacks (hne : s ≠ t) (h : lacks d s = true) (rest : List String) :
    (assign v d (s :: rest)).get? t = none := by
  cases d with
  | seq items =>
    rw [assign_seq_of_lacks (Option.isNone_iff_eq_none.mp h), get?_singleton, if_neg hne.symm]
  | _ => contradiction

/-! ### Whole paths -/

theorem descend_append (d : Value) (p q : List String) :
    descend d (p ++ q) = (descend d p).bind (descend · q) := by
  induction p generalizing d with
  | nil => rfl
  | cons s p ih =>
    rw [List.cons_append, descend, descend, Option.bind_assoc]
    exact Option.bind_congr fun w _ => ih w

/-- Along a shared path, what an assignment leaves is what the rest of it makes of what lay
there. -/
theorem descend_assign_shared (hs : ∀ s ∈ shared, IsUsual s) (rest : List String) :
    descend (assign v d (shared ++ rest)) shared =
      some (assign v ((descend d shared).getD .null) rest) := by
  induction shared generalizing d with
  | nil => rfl
  | cons s shared ih =>
    have hrest := ih (d := (d.get? s).getD .null) fun t ht => hs t (List.mem_cons_of_mem s ht)
    rw [List.cons_append, descend, descend, get?_assign_same (hs s List.mem_cons_self),
      Option.bind_some, hrest]
    cases d.get? s with
    | some w => rfl
    | none => cases shared <;> rfl

/-- Two paths that differ part at a first segment. -/
theorem Diverge.exists_parting (h : Diverge p q) :
    ∃ shared s t p' q', p = shared ++ s :: p' ∧ q = shared ++ t :: q' ∧ s ≠ t := by
  obtain ⟨i, s, t, hp, hq, hne⟩ := h
  induction i generalizing p q with
  | zero =>
    rw [← List.head?_eq_getElem?] at hp hq
    obtain ⟨p', rfl⟩ := List.head?_eq_some_iff.mp hp
    obtain ⟨q', rfl⟩ := List.head?_eq_some_iff.mp hq
    exact ⟨[], s, t, p', q', rfl, rfl, hne⟩
  | succ i ih =>
    cases p with
    | nil => contradiction
    | cons a p =>
      cases q with
      | nil => contradiction
      | cons b q =>
        by_cases hab : a = b
        · obtain ⟨shared, s, t, p', q', rfl, rfl, hne⟩ := ih hp hq
          exact ⟨a :: shared, s, t, p', q', rfl, by rw [hab]; rfl, hne⟩
        · exact ⟨[], a, b, p, q, rfl, rfl, hab⟩

/-- Only what lies where the paths part decides. -/
theorem displaces_append (hne : s ≠ t) :
    displaces d (shared ++ s :: p') (shared ++ t :: q') =
      lacks ((descend d shared).getD .null) s := by
  induction shared generalizing d with
  | nil => exact if_neg hne
  | cons a shared ih =>
    rw [List.cons_append, List.cons_append, displaces, if_pos rfl, descend]
    cases d.get? a with
    | none => rfl
    | some w => exact ih

/-- Nothing leads on as little as a null does. -/
theorem bind_get?_getD {q : List String} (w : Option Value) :
    ((w.getD .null).get? t).bind (descend · q) = w.bind (descend · (t :: q)) := by
  cases w <;> rfl

/-- What a path leads to after an assignment at a path from which it parts. -/
theorem descend_assign_apart (hs : ∀ a ∈ shared ++ s :: p', IsUsual a)
    (ht : IsUsual t) (hne : s ≠ t) :
    descend (assign v d (shared ++ s :: p')) (shared ++ t :: q') =
      if displaces d (shared ++ s :: p') (shared ++ t :: q') then none
      else descend d (shared ++ t :: q') := by
  have hshared : ∀ a ∈ shared, IsUsual a := fun a ha => hs a (List.mem_append_left _ ha)
  have hself : IsUsual s := hs s (List.mem_append_right shared List.mem_cons_self)
  rw [displaces_append hne, descend_append, descend_append, descend_assign_shared hshared,
    Option.bind_some, descend, ← bind_get?_getD]
  cases hlacks : lacks ((descend d shared).getD .null) s with
  | false =>
    rw [get?_assign_other hself ht hne hlacks]
    rfl
  | true =>
    rw [get?_assign_of_lacks hne hlacks]
    rfl

theorem dataSet_eq {path s : String} {rest : List String} (h : segments path = s :: rest) :
    dataSet [d, .string path, v] = .ok (assign v d (s :: rest)) := by
  have harity : checkArity (.exactly 3) [d, .string path, v] = .ok () := rfl
  have htext : textArg [d, .string path, v] 1 = path := rfl
  rw [dataSet, harity]
  simp only [htext, h, bind, Except.bind]
  rfl

/-- An assignment answers, and what another path leads to stays, save where the two paths part at a
sequence in which the assigned one has no position: then the other leads to nothing. -/
theorem dataGet_dataSet_apart (d v : Value) (p q : String)
    (hp : ∀ s ∈ segments p, IsUsual s) (hq : ∀ s ∈ segments q, IsUsual s)
    (h : Diverge (segments p) (segments q)) :
    ∃ d', dataSet [d, .string p, v] = .ok d' ∧
      dataGet [d', .string q] =
        if displaces d (segments p) (segments q) then .ok .null else dataGet [d, .string q] := by
  obtain ⟨shared, s, t, p', q', hpath, hother, hne⟩ := h.exists_parting
  have ht : IsUsual t := hq t (by simp [hother])
  have hset : dataSet [d, .string p, v] = .ok (assign v d (segments p)) := by
    cases hsegments : segments p with
    | nil =>
      rw [hpath] at hsegments
      exact absurd hsegments (List.append_ne_nil_of_right_ne_nil shared (List.cons_ne_nil s p'))
    | cons a rest => exact dataSet_eq hsegments
  refine ⟨_, hset, ?_⟩
  show Except.ok ((descend (assign v d (segments p)) (segments q)).getD .null) = _
  rw [hpath] at hp
  rw [hpath, hother, descend_assign_apart hp ht hne]
  cases hdisplaces : displaces d (shared ++ s :: p') (shared ++ t :: q') with
  | false =>
    show _ = Except.ok ((descend d (segments q)).getD .null)
    rw [hother]
    rfl
  | true => rfl

/-- One item of a sequence in a map is replaced, and the one next to it stays. -/
theorem dataGet_dataSet_apart_nextItem :
    (∀ s ∈ segments "a.0", IsUsual s) ∧ (∀ s ∈ segments "a.1", IsUsual s) ∧
      Diverge (segments "a.0") (segments "a.1") ∧
      ∃ d', dataSet [.map [("a", .seq [.int 1, .int 2])], .string "a.0", .int 9] = .ok d' ∧
        dataGet [d', .string "a.1"] = .ok (.int 2) := by
  have hfirst : segments "a.0" = ["a", "0"] := by decide
  have hsecond : segments "a.1" = ["a", "1"] := by decide
  have hp : ∀ s ∈ segments "a.0", IsUsual s := by
    rw [hfirst, List.forall_mem_cons, List.forall_mem_singleton]
    exact ⟨.inl (by decide), .inr ⟨0, by decide⟩⟩
  have hq : ∀ s ∈ segments "a.1", IsUsual s := by
    rw [hsecond, List.forall_mem_cons, List.forall_mem_singleton]
    exact ⟨.inl (by decide), .inr ⟨1, by decide⟩⟩
  have hdiverge : Diverge (segments "a.0") (segments "a.1") := by
    rw [hfirst, hsecond]
    exact ⟨1, "0", "1", rfl, rfl, by decide⟩
  obtain ⟨d', hset, hget⟩ := dataGet_dataSet_apart (.map [("a", .seq [.int 1, .int 2])]) (.int 9)
    "a.0" "a.1" hp hq hdiverge
  refine ⟨hp, hq, hdiverge, d', hset, hget.trans ?_⟩
  rw [hfirst, hsecond]
  rfl

/-- A name assigned to in a sequence makes a map of it, and its items are gone. -/
theorem dataGet_dataSet_apart_ne :
    (∀ s ∈ segments "x", IsUsual s) ∧ (∀ s ∈ segments "0", IsUsual s) ∧
      Diverge (segments "x") (segments "0") ∧
      ∃ d', dataSet [.seq [.int 1, .int 2], .string "x", .int 9] = .ok d' ∧
        dataGet [d', .string "0"] ≠ dataGet [.seq [.int 1, .int 2], .string "0"] := by
  have hname : segments "x" = ["x"] := by decide
  have hposition : segments "0" = ["0"] := by decide
  rw [hname, hposition]
  refine ⟨List.forall_mem_singleton.mpr (.inl (by decide)),
    List.forall_mem_singleton.mpr (.inr ⟨0, by decide⟩), ⟨0, "x", "0", rfl, rfl, by decide⟩,
    .map [("x", .int 9)], rfl, fun h => ?_⟩
  have hnull : dataGet [.map [("x", .int 9)], .string "0"] = .ok .null := rfl
  have hitem : dataGet [.seq [.int 1, .int 2], .string "0"] = .ok (.int 1) := rfl
  rw [hnull, hitem] at h
  exact Value.noConfusion (Except.ok.inj h)

end Stencil.Library.Object
