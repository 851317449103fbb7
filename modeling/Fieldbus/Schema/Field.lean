import Fieldbus.Schema.FieldType

/-!
# Fields and their places

A list of named fields is the layout of a message: the fields follow each other on the wire without
gaps, after one byte for the id and before two bytes for the checksum. Lengths and offsets are plain
numbers, and are measured once more in words of the machine.
-/

namespace Fieldbus

structure Field where
  name : String
  type : FieldType
deriving DecidableEq

def idLength : Nat := 1

def checksumLength : Nat := 2

namespace Field

def payloadLength (fields : List Field) : Nat :=
  fields.foldr (fun field length => field.type.width + length) 0

/-- Where the field with the given index starts, counted from the first field.  An index past the
end yields the end. -/
def offset (fields : List Field) (index : Nat) : Nat := payloadLength (fields.take index)

def wireLength (fields : List Field) : Nat := idLength + payloadLength fields + checksumLength

def nameWidth (fields : List Field) : Nat :=
  fields.foldl (fun width field => max width field.name.length) 0

end Field

/-! ## In machine words

Measuring goes over the fields by index and adds up their widths in a word, once for the whole
layout and once for the fields before an index. There is no result where a sum does not fit a word.
-/

/-- A number as a machine word, if it fits one. -/
def word? (n : Nat) : Option USize := if n < USize.size then some (USize.ofNat n) else none

namespace Field

def addTo? (sum : USize) (field : Field) : Option USize := word? (sum.toNat + field.type.width)

def sumFrom (fields : List Field) (total : USize) (i : Nat) : Option USize :=
  if h : i < fields.length then do
    let total ← addTo? total (fields.get ⟨i, h⟩)
    sumFrom fields total (i + 1)
  else some total
termination_by fields.length - i

/-- Adds the widths of the fields from number `i` on that stand before an index.  An index past the
end stops at the end. -/
def sumUpTo (fields : List Field) (index : Nat) (offset : USize) (i : Nat) : Option USize :=
  if h : i < index ∧ i < fields.length then do
    let offset ← addTo? offset (fields.get ⟨i, h.2⟩)
    sumUpTo fields index offset (i + 1)
  else some offset
termination_by fields.length - i

def payloadWord? (fields : List Field) : Option USize := sumFrom fields 0 0

def offsetWord? (fields : List Field) (index : Nat) : Option USize := sumUpTo fields index 0 0

def wireWord? (fields : List Field) : Option USize := do
  let payload ← payloadWord? fields
  let body ← word? (idLength + payload.toNat)
  word? (body.toNat + checksumLength)

end Field

end Fieldbus
