import Stencil.Digest.Block

/-!
The SHA-1 digest.
-/
namespace Stencil.Digest.Sha1

structure State where
  a : UInt32
  b : UInt32
  c : UInt32
  d : UInt32
  e : UInt32

def start : State := ⟨0x67452301, 0xefcdab89, 0x98badcfe, 0x10325476, 0xc3d2e1f0⟩

/-- The sixteen words of a block and the sixty-four made from them. The newest word comes first
while the schedule grows. -/
def schedule (words : List UInt32) : List UInt32 :=
  let grow (ws : List UInt32) (_ : Nat) : List UInt32 :=
    rotateLeft (ws.getD 2 0 ^^^ ws.getD 7 0 ^^^ ws.getD 13 0 ^^^ ws.getD 15 0) 1 :: ws
  ((List.range 64).foldl grow words.reverse).reverse

/-- The mixing function of a round of twenty steps and its constant. -/
def mix (s : State) (i : Nat) : UInt32 × UInt32 :=
  match i / 20 with
  | 0 => ((s.b &&& s.c) ||| (~~~s.b &&& s.d), 0x5a827999)
  | 1 => (s.b ^^^ s.c ^^^ s.d, 0x6ed9eba1)
  | 2 => ((s.b &&& s.c) ||| (s.b &&& s.d) ||| (s.c &&& s.d), 0x8f1bbcdc)
  | _ => (s.b ^^^ s.c ^^^ s.d, 0xca62c1d6)

def step (s : State) (p : UInt32 × Nat) : State :=
  let (f, k) := mix s p.2
  ⟨rotateLeft s.a 5 + f + s.e + k + p.1, s.a, rotateLeft s.b 30, s.c, s.d⟩

/-- Works a block into the state. -/
def absorb (s : State) (words : List UInt32) : State :=
  let t := (schedule words).zipIdx.foldl step s
  ⟨s.a + t.a, s.b + t.b, s.c + t.c, s.d + t.d, s.e + t.e⟩

/-- The digest of a text. -/
def digest (s : String) : String :=
  let t := (blocks .bigEndian (messageOf s)).foldl absorb start
  hex .bigEndian [t.a, t.b, t.c, t.d, t.e]

end Stencil.Digest.Sha1
