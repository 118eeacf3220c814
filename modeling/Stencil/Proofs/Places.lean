import Stencil.Text.Position

/-!
Pieces of a text and the places where they stand. A place is counted in bytes, and not every number
of bytes is one: a piece stands behind whole characters, so the text can be cut in front of it and
behind it.
-/
namespace Stencil.Text

/-- The piece stands in the text behind `n` bytes of whole characters. -/
def StandsAt (piece : List Char) (n : Nat) (s : List Char) : Prop :=
  ∃ a b, s = a ++ (piece ++ b) ∧ byteSize a = n

theorem byteSize_pos {s : List Char} (h : s ≠ []) : 0 < byteSize s := by
  obtain ⟨c, s, rfl⟩ := List.exists_cons_of_ne_nil h
  have hc := c.utf8Size_pos
  rw [byteSize_cons]
  omega

/-- A cut of a text stands behind a given front of it, or else fewer bytes stand in front of it. -/
theorem exists_behind_or_byteSize_lt {front rest a b : List Char} (h : front ++ rest = a ++ b) :
    (∃ a', a = front ++ a' ∧ rest = a' ++ b) ∨ byteSize a < byteSize front := by
  rcases List.append_eq_append_iff.mp h with hbehind | ⟨c, rfl, rfl⟩
  · exact .inl hbehind
  · by_cases hc : c = []
    · subst hc
      exact .inl ⟨[], by rw [List.append_nil, List.append_nil], rfl⟩
    · have hpos := byteSize_pos hc
      rw [byteSize_append]
      exact .inr (by omega)

namespace StandsAt

variable {piece inner s : List Char} {n k : Nat}

theorem front (piece rest : List Char) : StandsAt piece 0 (piece ++ rest) :=
  ⟨[], rest, rfl, rfl⟩

theorem le (h : StandsAt piece n s) : n + byteSize piece ≤ byteSize s := by
  obtain ⟨a, b, rfl, rfl⟩ := h
  simp only [byteSize_append]
  omega

/-- More text in front moves a piece by its bytes. -/
theorem behind (a : List Char) (h : StandsAt piece n s) :
    StandsAt piece (byteSize a + n) (a ++ s) := by
  obtain ⟨a', b, rfl, rfl⟩ := h
  exact ⟨a ++ a', b, by rw [List.append_assoc], byteSize_append a a'⟩

/-- A piece of a piece stands in the text behind the bytes of both. -/
theorem trans (h : StandsAt inner k piece) (h' : StandsAt piece n s) :
    StandsAt inner (n + k) s := by
  obtain ⟨a, b, rfl, rfl⟩ := h
  obtain ⟨a', b', rfl, rfl⟩ := h'
  refine ⟨a' ++ a, b ++ b', ?_, byteSize_append a' a⟩
  simp only [List.append_assoc]

/-- A text can be cut in front of a piece. -/
theorem starts (h : StandsAt piece n s) : StandsAt [] n s := by
  obtain ⟨a, b, rfl, rfl⟩ := h
  exact ⟨a, piece ++ b, rfl, rfl⟩

end StandsAt

theorem standsAt_byteSize (s : List Char) : StandsAt [] (byteSize s) s :=
  ⟨s, [], by rw [List.append_nil, List.append_nil], rfl⟩

end Stencil.Text
