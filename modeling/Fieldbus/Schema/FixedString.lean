import Fieldbus.Text.Basic
import Fieldbus.Text.Quoted
import Fieldbus.Text.Utf8

/-!
# Strings of fixed capacity

A string occupies a fixed number of bytes.  Its content ends before the first zero byte, and a write
always leaves room for one; longer content is cut.
-/

namespace Fieldbus

/-- A string of `capacity` bytes, terminator included. -/
structure FixedString (capacity : Nat) where
  raw : List UInt8
  length_raw : raw.length = capacity
deriving DecidableEq

namespace FixedString

variable {capacity : Nat}

def upToNul (bytes : List UInt8) : List UInt8 := bytes.takeWhile (· ≠ 0)

/-- The bytes that a write keeps: those before the first zero byte, one fewer than the capacity at
most. -/
def kept (capacity : Nat) (bytes : List UInt8) : List UInt8 := (upToNul bytes).take (capacity - 1)

def overflows (capacity : Nat) (bytes : List UInt8) : Bool :=
  decide (capacity - 1 < (upToNul bytes).length)

theorem length_kept_le (capacity : Nat) (bytes : List UInt8) :
    (kept capacity bytes).length ≤ capacity := by
  simp only [kept, List.length_take]
  omega

/-- The string with the given content, zero bytes filling the rest. -/
def ofBytes (capacity : Nat) (bytes : List UInt8) : FixedString capacity where
  raw := kept capacity bytes ++ List.replicate (capacity - (kept capacity bytes).length) 0
  length_raw := by
    have := length_kept_le capacity bytes
    simp only [List.length_append, List.length_replicate]
    omega

def empty (capacity : Nat) : FixedString capacity where
  raw := List.replicate capacity 0
  length_raw := List.length_replicate

/-- Writes bytes over a string and tells whether some did not fit.  The old bytes are cleared, and
those before the first zero byte copied over the start, one fewer than the capacity at most. -/
def write (s : FixedString capacity) (bytes : List UInt8) : FixedString capacity × Bool :=
  let source := upToNul bytes
  let limit := capacity - 1
  let count := min source.length limit
  let cleared := s.raw.map fun _ => 0
  let written : FixedString capacity := {
    raw := source.take count ++ cleared.drop count
    length_raw := by
      simp only [cleared, List.length_append, List.length_take, List.length_drop, List.length_map,
        s.length_raw]
      omega }
  (written, decide (limit < source.length))

/-- Where the first zero byte stands, which is the end if there is none. -/
def length (s : FixedString capacity) : Nat := s.raw.findIdx (· = 0)

def content (s : FixedString capacity) : List UInt8 := upToNul s.raw

/-- The content as text, with replacement characters for what is not UTF-8. -/
def lossy (s : FixedString capacity) : String := String.ofList (Utf8.decodeLossy s.content)

def text? (s : FixedString capacity) : Option String := (Utf8.decode? s.content).map String.ofList

def inspect (s : FixedString capacity) : String :=
  "FixedStr<" ++ Text.decimal capacity ++ ">(" ++ String.ofList (Text.quote s.lossy.toList) ++ ")"

end FixedString

end Fieldbus
