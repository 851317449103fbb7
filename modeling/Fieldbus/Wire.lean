import Fieldbus.Binary32.Basic

/-!
# On the wire

Words of two and four bytes as byte lists, least significant byte first; the Fletcher-16 checksum;
and cursors, which go through a buffer of fixed size and have no result where an access would leave
it.

The checksum keeps two running sums modulo 255 over a byte list: the plain sum of the bytes, and the
sum of the plain sums, which weighs every byte by its distance from the end.
-/

namespace Fieldbus

namespace LittleEndian

def encode16 (word : UInt16) : List UInt8 :=
  [word.toUInt8, (word >>> 8).toUInt8]

/-- The 16-bit word at the start of a byte list; missing bytes count as zero. -/
def decode16 (bytes : List UInt8) : UInt16 :=
  (bytes.getD 0 0).toUInt16 ||| ((bytes.getD 1 0).toUInt16 <<< 8)

def encode32 (word : UInt32) : List UInt8 :=
  [word.toUInt8, (word >>> 8).toUInt8, (word >>> 16).toUInt8, (word >>> 24).toUInt8]

/-- The 32-bit word at the start of a byte list; missing bytes count as zero. -/
def decode32 (bytes : List UInt8) : UInt32 :=
  (bytes.getD 0 0).toUInt32 ||| ((bytes.getD 1 0).toUInt32 <<< 8) |||
    ((bytes.getD 2 0).toUInt32 <<< 16) ||| ((bytes.getD 3 0).toUInt32 <<< 24)

theorem length_encode16 (word : UInt16) : (encode16 word).length = 2 := rfl

theorem length_encode32 (word : UInt32) : (encode32 word).length = 4 := rfl

end LittleEndian

/-! ## Checksum -/

/-- The two running sums, each below 255. -/
structure Sums where
  plain : UInt16
  weighted : UInt16
deriving DecidableEq

namespace Sums

def zero : Sums := ⟨0, 0⟩

def add (sums : Sums) (byte : UInt8) : Sums :=
  let plain := (sums.plain + byte.toUInt16) % 255
  ⟨plain, (sums.weighted + plain) % 255⟩

/-- The plain sum in the high byte, the weighted one in the low byte. -/
def word (sums : Sums) : UInt16 := (sums.plain <<< 8) ||| sums.weighted

end Sums

/-- Fletcher-16 over the bytes, with sums taken modulo 255. -/
def checksum (bytes : List UInt8) : UInt16 :=
  (bytes.foldl Sums.add Sums.zero).word

/-! ## Cursors -/

structure Cursor where
  buffer : List UInt8
  position : Nat

namespace Cursor

def overwrite (buffer : List UInt8) (position : Nat) (bytes : List UInt8) : List UInt8 :=
  buffer.take position ++ bytes ++ buffer.drop (position + bytes.length)

def put (bytes : List UInt8) : StateT Cursor Option Unit := fun cursor =>
  let stop := cursor.position + bytes.length
  if stop ≤ cursor.buffer.length then
    some ((), ⟨overwrite cursor.buffer cursor.position bytes, stop⟩)
  else none

def take (length : Nat) : StateT Cursor Option (List UInt8) := fun cursor =>
  let stop := cursor.position + length
  if stop ≤ cursor.buffer.length then
    some ((cursor.buffer.drop cursor.position).take length, ⟨cursor.buffer, stop⟩)
  else none

def putUInt8 (v : UInt8) : StateT Cursor Option Unit := put [v]

def putInt8 (v : Int8) : StateT Cursor Option Unit := put [v.toUInt8]

def putInt16 (v : Int16) : StateT Cursor Option Unit := put (LittleEndian.encode16 v.toUInt16)

def putFloat32 (x : Binary32) : StateT Cursor Option Unit := put (LittleEndian.encode32 x.bits)

def takeUInt8 : StateT Cursor Option UInt8 := return (← take 1).getD 0 0

def takeInt8 : StateT Cursor Option Int8 := return ((← take 1).getD 0 0).toInt8

def takeInt16 : StateT Cursor Option Int16 := return (LittleEndian.decode16 (← take 2)).toInt16

def takeFloat32 : StateT Cursor Option Binary32 := return ⟨LittleEndian.decode32 (← take 4)⟩

end Cursor

end Fieldbus
