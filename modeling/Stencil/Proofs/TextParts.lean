import Stencil.Library.Sequence
import Stencil.Library.Strings
import Stencil.Proofs.WholeArithmetic

/-!
Parts of a text by positions. One helper counts the characters of a text in 64 bits, moves its start
into the text and adds a count to it; the other one takes two positions and moves each into the
text. They agree: with a start alone, with an end that counts from the back, and with a count of
characters. Every position lies within the text, and no sum on the way to it leaves 64 bits but one
that is past the end of the text.
-/
namespace Stencil.Library

open Number (Fits)
open Sequence (bound fromStart part slice)
open Strings (cutOut partArgs partEnd partStart saturatingAdd substr)

variable {α : Type} {items : List α} {start stop : Nat} {s : String} {k n : Int64}

/-! ### Arithmetic in 64 bits -/

section Arithmetic

variable (a b : Int64)

theorem toInt_max : (max a b).toInt = max a.toInt b.toInt := by
  show (if a ≤ b then b else a).toInt = _
  split
  · next h =>
    have hle := Int64.le_iff_toInt_le.mp h
    omega
  · next h =>
    have hlt := mt Int64.le_iff_toInt_le.mpr h
    omega

theorem toInt_min : (min a b).toInt = min a.toInt b.toInt := by
  show (if a ≤ b then a else b).toInt = _
  split
  · next h =>
    have hle := Int64.le_iff_toInt_le.mp h
    omega
  · next h =>
    have hlt := mt Int64.le_iff_toInt_le.mpr h
    omega

variable {a b}

theorem toInt_add_of_fits (h : Fits (a.toInt + b.toInt)) : (a + b).toInt = a.toInt + b.toInt := by
  have hlow : -2 ^ 63 ≤ a.toInt + b.toInt := h.1
  have hhigh : a.toInt + b.toInt ≤ 2 ^ 63 - 1 := h.2
  rw [Int64.toInt_add]
  exact Int.bmod_eq_of_le (by omega) (by omega)

/-- A sum that fits is exact, and of the others the greater ones become the greatest integer. -/
theorem toInt_saturatingAdd (h : Int64.minValue.toInt ≤ a.toInt + b.toInt) :
    (saturatingAdd a b).toInt = min (a.toInt + b.toInt) Int64.maxValue.toInt := by
  unfold saturatingAdd
  by_cases hhigh : a.toInt + b.toInt ≤ Int64.maxValue.toInt
  · rw [Int64.toInt_ofIntClamp h hhigh, Int.min_eq_left hhigh]
  · rw [Int64.ofIntClamp, dif_pos h, dif_neg hhigh, Int.min_eq_right (by omega)]

/-- A position as a count of items. -/
theorem toNat_toUInt64_of_toInt_eq {count : Nat} (h : a.toInt = count) :
    a.toUInt64.toNat = count := by
  have hzero : (0 : Int64).toInt = 0 := rfl
  have hnonneg : (0 : Int64) ≤ a := Int64.le_iff_toInt_le.mpr (by omega)
  rw [Int64.toNat_toUInt64_of_le hnonneg, Int64.toNatClampNeg, h, Int.toNat_natCast]

end Arithmetic

/-! ### The positions -/

section Positions

variable {length : Int64} {size : Nat} (hlength : length.toInt = size)

include hlength

theorem fits_fromStart (k : Int64) : Fits (fromStart k.toInt size) := by
  obtain ⟨hlow, hhigh⟩ := Number.fits_toInt k
  obtain ⟨-, hsize⟩ := Number.fits_toInt length
  unfold fromStart Fits
  split <;> omega

/-- A count from the end of the text does not leave 64 bits. -/
theorem toInt_length_add (h : k < 0) : (length + k).toInt = size + k.toInt := by
  have hneg : k.toInt < 0 := Int64.lt_iff_toInt_lt.mp h
  have hfits := fits_fromStart hlength k
  rw [fromStart, if_pos hneg, ← hlength] at hfits
  rw [toInt_add_of_fits hfits, hlength]

/-- Both helpers move a start into the text in the same way. -/
theorem toInt_partStart (k : Int64) : (partStart k length).toInt = (bound k.toInt size).val := by
  have hzero : (0 : Int64).toInt = 0 := rfl
  have hbound : (bound k.toInt size).val = (min (fromStart k.toInt size) size).toNat := rfl
  rw [hbound]
  unfold partStart fromStart
  split
  · next h =>
    have hneg : k.toInt < 0 := Int64.lt_iff_toInt_lt.mp h
    rw [toInt_max, toInt_length_add hlength h, hzero, if_pos hneg]
    omega
  · next h =>
    have hpos : ¬k.toInt < 0 := fun hneg => h (Int64.lt_iff_toInt_lt.mpr hneg)
    rw [toInt_min, hlength, if_neg hpos]
    omega

theorem toInt_partEnd_of_neg (start : Int64) (h : n < 0) :
    (partEnd start n length).toInt = max (size + n.toInt) start.toInt := by
  have hne : n ≠ 0 := by
    rintro rfl
    exact absurd h (by decide)
  rw [partEnd, if_neg hne, if_pos h, toInt_max, toInt_length_add hlength h]

/-- The sum of a start and a count is cut off at the end of the text before it can matter that it is
not exact. -/
theorem toInt_partEnd_of_pos {start : Int64} (hstart : 0 ≤ start.toInt) (h : 0 < n) :
    (partEnd start n length).toInt = min (start.toInt + n.toInt) size := by
  have hpos : 0 < n.toInt := Int64.lt_iff_toInt_lt.mp h
  have hne : n ≠ 0 := by
    rintro rfl
    exact absurd h (by decide)
  have hnot : ¬n < 0 := by
    intro hneg
    have hlt : n.toInt < 0 := Int64.lt_iff_toInt_lt.mp hneg
    omega
  have hlow : Int64.minValue.toInt ≤ start.toInt + n.toInt := by
    have hmin : Int64.minValue.toInt = -2 ^ 63 := rfl
    omega
  have hsize := length.toInt_le
  rw [partEnd, if_neg hne, if_neg hnot, toInt_min, toInt_saturatingAdd hlow, hlength]
  omega

/-- A part ends behind its start and within the text. -/
theorem toInt_partEnd_bounds (k n : Int64) :
    (partStart k length).toInt ≤ (partEnd (partStart k length) n length).toInt ∧
      (partEnd (partStart k length) n length).toInt ≤ size := by
  have hstart := toInt_partStart hlength k
  have hinside := (bound k.toInt size).property
  rcases Int.lt_trichotomy n.toInt 0 with hneg | hzero | hpos
  · rw [toInt_partEnd_of_neg hlength _ (Int64.lt_iff_toInt_lt.mpr hneg)]
    omega
  · obtain rfl : n = 0 := Int64.toInt_inj.mp hzero
    rw [partEnd, if_pos rfl]
    omega
  · rw [toInt_partEnd_of_pos hlength (by omega) (Int64.lt_iff_toInt_lt.mpr hpos)]
    omega

end Positions

/-- What parts of a text are cut at, and what that is computed from. The characters are counted
without a loss; the sums that count from the end are exact, and the sum of a start and a count is
exact or past the end; and the positions are in order and within the text. -/
structure KeepsInside (size : Nat) (k n : Int64) : Prop where
  counted : (Int64.ofNat size).toInt = size
  fits : Fits (fromStart k.toInt size) ∧ Fits (fromStart n.toInt size)
  from_end : (k < 0 → (Int64.ofNat size + k).toInt = size + k.toInt) ∧
    (n < 0 → (Int64.ofNat size + n).toInt = size + n.toInt)
  from_start : 0 < n → (saturatingAdd (partStart k (.ofNat size)) n).toInt =
      (partStart k (.ofNat size)).toInt + n.toInt ∨
    size < (partStart k (.ofNat size)).toInt + n.toInt
  inside : 0 ≤ (partStart k (.ofNat size)).toInt ∧
    (partStart k (.ofNat size)).toInt ≤
      (partEnd (partStart k (.ofNat size)) n (.ofNat size)).toInt ∧
    (partEnd (partStart k (.ofNat size)) n (.ofNat size)).toInt ≤ size

theorem keepsInside {size : Nat} (h : size ≤ Int64.maxValue.toInt) (k n : Int64) :
    KeepsInside size k n := by
  have hmax : Int64.maxValue.toInt = 2 ^ 63 - 1 := rfl
  have hcounted : (Int64.ofNat size).toInt = size := Int64.toInt_ofNat_of_lt (by omega)
  have hstart := toInt_partStart hcounted k
  have hinside := (bound k.toInt size).property
  refine ⟨hcounted, ⟨fits_fromStart hcounted k, fits_fromStart hcounted n⟩,
    ⟨toInt_length_add hcounted, toInt_length_add hcounted⟩, fun hn => ?_,
    ⟨by omega, toInt_partEnd_bounds hcounted k n⟩⟩
  have hpos : 0 < n.toInt := Int64.lt_iff_toInt_lt.mp hn
  have hmin : Int64.minValue.toInt = -2 ^ 63 := rfl
  rw [toInt_saturatingAdd (by omega)]
  omega

/-! ### Parts of lists -/

theorem take_drop_max (items : List α) (stop start : Nat) :
    (items.take (max stop start)).drop start = (items.take stop).drop start := by
  have hlength : max stop start - start = stop - start := by omega
  rw [List.drop_take, List.drop_take, hlength]

/-- A part that ends where it starts, or before, is empty. -/
theorem picked_eq (h : stop ≤ items.length) :
    (if h' : start < stop then part items start stop ⟨Nat.le_of_lt h', h⟩ else []) =
      (items.take stop).drop start := by
  split
  · rfl
  · next hle =>
    have hlength : (items.take stop).length ≤ start := by
      rw [List.length_take]
      omega
    exact (List.drop_eq_nil_of_le hlength).symm

/-- A part of the characters of a text is a text again. -/
theorem sameKind_picked (h : stop ≤ (s.toList.map fun c => Value.ofChars [c]).length) :
    Sequence.sameKind (.string s)
        (if h' : start < stop then
          part (s.toList.map fun c => Value.ofChars [c]) start stop ⟨Nat.le_of_lt h', h⟩
        else []) =
      .ofChars ((s.toList.take stop).drop start) := by
  have hjoin (chars : List Char) :
      String.join ((chars.map fun c => Value.ofChars [c]).map Value.text) = String.ofList chars := by
    rw [← String.toList_inj, String.toList_join, List.map_map, List.flatMap_map,
      String.toList_ofList]
    simp [Value.ofChars, Value.text]
  rw [picked_eq h, ← List.map_take, ← List.map_drop]
  exact congrArg Value.string (hjoin _)

/-! ### The two helpers -/

theorem slice_from (s : String) (k : Int64) :
    slice [.string s, .int k] = .ok (.ofChars (s.toList.drop (bound k.toInt s.length))) := by
  refine congrArg Except.ok ((sameKind_picked (Nat.le_refl _)).trans ?_)
  rw [List.length_map, List.take_length, String.length_toList]

theorem slice_between (s : String) (k n : Int64) :
    slice [.string s, .int k, .int n] =
      .ok (.ofChars ((s.toList.take (bound n.toInt s.length)).drop (bound k.toInt s.length))) := by
  refine congrArg Except.ok ((sameKind_picked (bound n.toInt _).property).trans ?_)
  rw [List.length_map, String.length_toList]

theorem partArgs_of_count (s : String) (k n : Int64) :
    partArgs [.string s, .int k, .int n] =
      .ok (s.toList, partStart k (.ofNat s.length),
        max (partEnd (partStart k (.ofNat s.length)) n (.ofNat s.length))
          (partStart k (.ofNat s.length))) := by
  rw [← String.length_toList]
  rfl

/-- No count takes what a count of zero takes. -/
theorem partArgs_of_rest (s : String) (k : Int64) :
    partArgs [.string s, .int k] = partArgs [.string s, .int k, .int 0] := rfl

theorem substr_of_partArgs {args : List Value} {chars : List Char} {first last : Int64}
    (h : partArgs args = .ok (chars, first, last)) :
    substr args = (cutOut chars first.toUInt64.toNat last.toUInt64.toNat).map Value.ofChars := by
  rw [substr, h]
  show (cutOut chars _ _).bind (fun picked => Except.ok (Value.ofChars picked)) = _
  cases cutOut chars first.toUInt64.toNat last.toUInt64.toNat <;> rfl

/-- Cutting out does not abort, since the positions are in order and within the text. -/
theorem substr_of_count (hs : s.length ≤ Int64.maxValue.toInt) {stop : Nat}
    (hstop : (partEnd (partStart k (.ofNat s.length)) n (.ofNat s.length)).toInt = stop) :
    substr [.string s, .int k, .int n] =
      .ok (.ofChars ((s.toList.take stop).drop (bound k.toInt s.length))) := by
  have hinside := keepsInside hs k n
  have hstart := toInt_partStart hinside.counted k
  obtain ⟨hnonneg, horder, hend⟩ := hinside.inside
  have hlast : (max (partEnd (partStart k (.ofNat s.length)) n (.ofNat s.length))
      (partStart k (.ofNat s.length))).toInt = stop := by
    rw [toInt_max]
    omega
  rw [substr_of_partArgs (partArgs_of_count s k n), toNat_toUInt64_of_toInt_eq hstart,
    toNat_toUInt64_of_toInt_eq hlast, cutOut, String.length_toList, if_pos ⟨by omega, by omega⟩]
  rfl

theorem substr_eq_slice_from (hs : s.length ≤ Int64.maxValue.toInt) (k : Int64) :
    substr [.string s, .int k] = slice.toHelper [.string s, .int k] := by
  have hcount : substr [.string s, .int k] = substr [.string s, .int k, .int 0] := by
    rw [substr, substr, partArgs_of_rest]
  have hend : partEnd (partStart k (.ofNat s.length)) 0 (.ofNat s.length) = .ofNat s.length :=
    if_pos rfl
  rw [hcount, substr_of_count hs (hend ▸ (keepsInside hs k 0).counted), ← String.length_toList,
    List.take_length, String.length_toList, Builtin.toHelper, slice_from]
  rfl

/-- A count below zero leaves as many characters out as an end that counts from the back. -/
theorem substr_eq_slice_between (hs : s.length ≤ Int64.maxValue.toInt) (hn : n < 0) :
    substr [.string s, .int k, .int n] = slice.toHelper [.string s, .int k, .int n] := by
  have hcounted := (keepsInside hs k n).counted
  have hneg : n.toInt < 0 := Int64.lt_iff_toInt_lt.mp hn
  have hback : (bound n.toInt s.length).val = (s.length + n.toInt).toNat := by
    show (min (fromStart n.toInt s.length) s.length).toNat = _
    rw [fromStart, if_pos hneg]
    omega
  have hstop : (partEnd (partStart k (.ofNat s.length)) n (.ofNat s.length)).toInt =
      (max (bound n.toInt s.length).val (bound k.toInt s.length).val : Nat) := by
    rw [toInt_partEnd_of_neg hcounted _ hn, toInt_partStart hcounted, hback]
    omega
  rw [substr_of_count hs hstop, take_drop_max, Builtin.toHelper, slice_between]
  rfl

/-- A count above zero takes that many characters, or all that are left. -/
theorem substr_eq_take (hs : s.length ≤ Int64.maxValue.toInt) (hn : 0 < n) :
    substr [.string s, .int k, .int n] =
      .ok (.ofChars ((s.toList.drop (bound k.toInt s.length)).take n.toInt.toNat)) := by
  have hcounted := (keepsInside hs k n).counted
  have hstart := toInt_partStart hcounted k
  have hpos : 0 < n.toInt := Int64.lt_iff_toInt_lt.mp hn
  have hstop : (partEnd (partStart k (.ofNat s.length)) n (.ofNat s.length)).toInt =
      (min ((bound k.toInt s.length).val + n.toInt.toNat) s.length : Nat) := by
    rw [toInt_partEnd_of_pos hcounted (by omega) hn, hstart]
    omega
  rw [substr_of_count hs hstop, List.drop_take]
  refine congrArg (fun picked => Except.ok (Value.ofChars picked)) ?_
  rw [List.take_eq_take_iff, List.length_drop, String.length_toList]
  omega

/-- Two parts of a text that meet make it up. -/
theorem slice_append_slice (s : String) (k : Int64) :
    ∃ t u : String, slice [.string s, .int 0, .int k] = .ok (.string t) ∧
      slice [.string s, .int k] = .ok (.string u) ∧ t ++ u = s := by
  have hzero : (bound (0 : Int64).toInt s.length).val = 0 := by
    show (min (fromStart 0 s.length) s.length).toNat = 0
    unfold fromStart
    omega
  refine ⟨_, _, slice_between s 0 k, slice_from s k, ?_⟩
  rw [← String.ofList_append, hzero, List.drop_zero, List.take_append_drop, String.ofList_toList]

/-- The two helpers agree on every text whose characters can be counted in 64 bits, as those of any
text in memory can. Neither aborts: no position leaves the text, and no sum leaves 64 bits but that
of a start and a count, which is then past the end of the text. -/
theorem substr_follows_slice (s : String) (k n : Int64) :
    (∃ t u : String, slice [.string s, .int 0, .int k] = .ok (.string t) ∧
      slice [.string s, .int k] = .ok (.string u) ∧ t ++ u = s) ∧
    (bound k.toInt s.length).val ≤ s.length ∧ (bound n.toInt s.length).val ≤ s.length ∧
    (s.length ≤ Int64.maxValue.toInt →
      substr [.string s, .int k] = slice.toHelper [.string s, .int k] ∧
      (n < 0 → substr [.string s, .int k, .int n] = slice.toHelper [.string s, .int k, .int n]) ∧
      (0 < n → ∃ t : List Char, slice [.string s, .int k] = .ok (.ofChars t) ∧
        substr [.string s, .int k, .int n] = .ok (.ofChars (t.take n.toInt.toNat))) ∧
      KeepsInside s.length k n) := by
  refine ⟨slice_append_slice s k, (bound k.toInt s.length).property,
    (bound n.toInt s.length).property, fun hs => ?_⟩
  exact ⟨substr_eq_slice_from hs k, substr_eq_slice_between hs,
    fun hn => ⟨_, slice_from s k, substr_eq_take hs hn⟩, keepsInside hs k n⟩

/-- The least and the greatest integer as a start and a count in a text of five characters. -/
theorem substr_follows_slice_extremes :
    (Int64.minValue < 0 ∧ 0 < Int64.maxValue ∧
        ("weft!".length : Int) ≤ Int64.maxValue.toInt) ∧
      substr [.string "weft!", .int Int64.minValue] =
        slice.toHelper [.string "weft!", .int Int64.minValue] ∧
      substr [.string "weft!", .int (-4), .int Int64.minValue] =
        slice.toHelper [.string "weft!", .int (-4), .int Int64.minValue] ∧
      (∃ t : List Char, slice [.string "weft!", .int (-4)] = .ok (.ofChars t) ∧
        substr [.string "weft!", .int (-4), .int Int64.maxValue] =
          .ok (.ofChars (t.take Int64.maxValue.toInt.toNat))) ∧
      KeepsInside "weft!".length (-4) Int64.maxValue := by
  have hlow : Int64.minValue < 0 := by decide
  have hhigh : 0 < Int64.maxValue := by decide
  have hlength : ("weft!".length : Int) ≤ Int64.maxValue.toInt := by decide
  obtain ⟨-, -, -, hleast⟩ := substr_follows_slice "weft!" Int64.minValue 0
  obtain ⟨-, -, -, hback⟩ := substr_follows_slice "weft!" (-4) Int64.minValue
  obtain ⟨-, -, -, hfront⟩ := substr_follows_slice "weft!" (-4) Int64.maxValue
  obtain ⟨-, -, hcount, hinside⟩ := hfront hlength
  exact ⟨⟨hlow, hhigh, hlength⟩, (hleast hlength).1, (hback hlength).2.1 hlow, hcount hhigh,
    hinside⟩

end Stencil.Library
