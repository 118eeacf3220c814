/-!
Places in text, counted in the bytes of its UTF-8 form.
-/
namespace Stencil.Text

/-- The number of bytes of a text. -/
def byteSize (s : List Char) : Nat := s.foldl (fun n c => n + c.utf8Size) 0

theorem byteSize_foldl (s : List Char) (n : Nat) :
    s.foldl (fun n c => n + c.utf8Size) n = n + byteSize s := by
  induction s generalizing n with
  | nil => rfl
  | cons c s ih =>
    rw [byteSize, List.foldl_cons, List.foldl_cons, ih, ih (0 + c.utf8Size)]
    omega

@[simp] theorem byteSize_nil : byteSize [] = 0 := rfl

@[simp] theorem byteSize_cons (c : Char) (s : List Char) :
    byteSize (c :: s) = c.utf8Size + byteSize s := by
  rw [byteSize, List.foldl_cons, byteSize_foldl, Nat.zero_add]

@[simp] theorem byteSize_append (s t : List Char) :
    byteSize (s ++ t) = byteSize s + byteSize t := by
  induction s with
  | nil => simp
  | cons c s ih => simp [ih, Nat.add_assoc]

/-- A line, counted from one, and the number of bytes before the place on that line. -/
structure Position where
  line : Nat
  column : Nat
  deriving DecidableEq, Repr

/-- The walk behind `positionAt`: `left` bytes are still to be passed. -/
def positionFrom (p : Position) (left : Nat) : List Char → Position
  | [] => p
  | c :: rest =>
    if left = 0 then p
    else if c == '\n' then positionFrom ⟨p.line + 1, 0⟩ (left - 1) rest
    else positionFrom ⟨p.line, p.column + min left c.utf8Size⟩ (left - c.utf8Size) rest

/-- The position that many bytes into a text. -/
def positionAt (s : List Char) (bytes : Nat) : Position := positionFrom ⟨1, 0⟩ bytes s

end Stencil.Text
