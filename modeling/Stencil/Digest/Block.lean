import Stencil.Text.Hex

/-!
What the digests have in common: a text is filled up to whole blocks of sixteen words, the blocks
are worked in one after the other, and the final words are written in hexadecimal.
-/
namespace Stencil.Digest

/-- The order of the bytes of a word. -/
inductive ByteOrder where
  | bigEndian
  | littleEndian
  deriving DecidableEq, Repr

/-- Bytes per block. -/
def blockSize : Nat := 64

/-- The lowest `count` bytes of a number. -/
def bytesOf (order : ByteOrder) (count n : Nat) : List UInt8 :=
  let low := (List.range count).map fun i => UInt8.ofNat (n / Nat.pow 256 i % 256)
  match order with
  | .littleEndian => low
  | .bigEndian => low.reverse

/-- The number that bytes stand for. -/
def ofBytes (order : ByteOrder) (bytes : List UInt8) : Nat :=
  match order with
  | .bigEndian => bytes.foldl (fun n b => 256 * n + b.toNat) 0
  | .littleEndian => bytes.foldr (fun b n => 256 * n + b.toNat) 0

/-- The message with a set bit, zeros and its length in bits behind it, in whole blocks. -/
def fillUp (order : ByteOrder) (message : List UInt8) : List UInt8 :=
  let missing := (2 * blockSize - 9 - message.length % blockSize) % blockSize
  message ++ 0x80 :: List.replicate missing 0 ++ bytesOf order 8 (8 * message.length)

/-- Pieces of a fixed size, cut from the front `count` times. -/
def pieces {α : Type} (size : Nat) : Nat → List α → List (List α)
  | 0, _ => []
  | count + 1, s => s.take size :: pieces size count (s.drop size)

/-- The words of a block. -/
def wordsOf (order : ByteOrder) (block : List UInt8) : List UInt32 :=
  (pieces 4 16 block).map fun w => UInt32.ofNat (ofBytes order w)

/-- The blocks of a message, as words. -/
def blocks (order : ByteOrder) (message : List UInt8) : List (List UInt32) :=
  let filled := fillUp order message
  (pieces blockSize (filled.length / blockSize) filled).map (wordsOf order)

def rotateLeft (x n : UInt32) : UInt32 := (x <<< n) ||| (x >>> (32 - n))

def rotateRight (x n : UInt32) : UInt32 := (x >>> n) ||| (x <<< (32 - n))

/-- Words in hexadecimal, byte by byte. -/
def hex (order : ByteOrder) (words : List UInt32) : String :=
  String.ofList (words.flatMap fun w =>
    (bytesOf order 4 w.toNat).flatMap fun b => 
      [Text.hexDigit (b.toNat / 16), Text.hexDigit (b.toNat % 16)])

/-- The bytes of a text. -/
def messageOf (s : String) : List UInt8 := s.toUTF8.toList

end Stencil.Digest
