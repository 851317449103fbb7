import Fieldbus.Proofs.FrameRoundTrip

/-!
# The windows of fields in a frame

A field occupies the bytes of a frame from its offset on, as many as its type is wide. Sending puts
the wire image of each field into its window, and receiving stores in each field what its window
stands for, whatever the other windows hold.
-/

namespace Fieldbus

namespace FieldType

lemma toInt_toInt8 (byte : UInt8) : byte.toInt8.toInt = Int.bmod byte.toNat 256 :=
  BitVec.toInt_eq_toNat_bmod _

lemma toInt_toInt16 (word : UInt16) : word.toInt16.toInt = Int.bmod word.toNat 65536 :=
  BitVec.toInt_eq_toNat_bmod _

lemma bmod_emod_of_lt {n m : Nat} (h : n < m) : (n : Int).bmod m % m = n := by
  rw [Int.bmod_emod, Int.emod_eq_of_lt (Int.natCast_nonneg _) (Int.ofNat_lt.mpr h)]

/-- What a field looks like on the wire: integers in two's complement or unsigned, floats by their
bits, the least significant byte first, and strings with all their bytes. -/
def IsImage : (type : FieldType) → type.Cell → List UInt8 → Prop
  | .int8 _, v, bytes =>
    bytes.length = 1 ∧ (LittleEndian.number bytes : Int) = Int8.toInt v % 256
  | .int16 _, v, bytes =>
    bytes.length = 2 ∧ (LittleEndian.number bytes : Int) = Int16.toInt v % 65536
  | .uint8 _, v, bytes => bytes.length = 1 ∧ LittleEndian.number bytes = UInt8.toNat v
  | .float32 _, x, bytes => bytes.length = 4 ∧ LittleEndian.number bytes = (Binary32.bits x).toNat
  | .chars _, s, bytes => bytes = FixedString.raw s

/-- The input that bytes stand for, read the same way. -/
def StandsFor : (type : FieldType) → List UInt8 → type.Input → Prop
  | .int8 _, bytes, n => n = Int.bmod (LittleEndian.number bytes) 256
  | .int16 _, bytes, n => n = Int.bmod (LittleEndian.number bytes) 65536
  | .uint8 _, bytes, n => n = (LittleEndian.number bytes : Int)
  | .float32 _, bytes, x => (Binary32.bits x).toNat = LittleEndian.number bytes
  | .chars _, bytes, input => input = bytes

lemma isImage_encode (type : FieldType) (cell : type.Cell) :
    type.IsImage cell (type.encode cell) := by
  cases type with
  | int8 range =>
    refine ⟨rfl, ?_⟩
    rw [encode, LittleEndian.number_singleton, ← Int8.toInt8_toUInt8 cell, toInt_toInt8]
    exact (bmod_emod_of_lt (Int8.toUInt8 cell).toNat_lt).symm
  | int16 range =>
    refine ⟨rfl, ?_⟩
    rw [encode, LittleEndian.number_encode16, ← Int16.toInt16_toUInt16 cell, toInt_toInt16]
    exact (bmod_emod_of_lt (Int16.toUInt16 cell).toNat_lt).symm
  | uint8 range => exact ⟨rfl, LittleEndian.number_singleton cell⟩
  | float32 range => exact ⟨rfl, LittleEndian.number_encode32 _⟩
  | chars capacity => rfl

lemma standsFor_decode {type : FieldType} {bytes : List UInt8} (h : bytes.length = type.width) :
    type.StandsFor bytes (type.decode bytes) := by
  cases type with
  | int8 range =>
    obtain ⟨byte, rfl⟩ := List.length_eq_one_iff.mp h
    change byte.toInt8.toInt = _
    rw [LittleEndian.number_singleton, toInt_toInt8]
  | int16 range =>
    change (LittleEndian.decode16 bytes).toInt16.toInt = _
    rw [toInt_toInt16, LittleEndian.toNat_decode16_eq_number h]
  | uint8 range =>
    obtain ⟨byte, rfl⟩ := List.length_eq_one_iff.mp h
    change (byte.toNat : Int) = _
    rw [LittleEndian.number_singleton]
  | float32 range => exact LittleEndian.toNat_decode32_eq_number h
  | chars capacity => rfl

end FieldType

namespace Field

variable {fields : List Field}

lemma payloadLength_cons (field : Field) (fields : List Field) :
    payloadLength (field :: fields) = field.type.width + payloadLength fields := rfl

lemma payloadLength_append (front back : List Field) :
    payloadLength (front ++ back) = payloadLength front + payloadLength back := by
  induction front with
  | nil => exact (Nat.zero_add _).symm
  | cons field front ih =>
    rw [List.cons_append, payloadLength_cons, payloadLength_cons, ih, Nat.add_assoc]

lemma offset_zero (fields : List Field) : offset fields 0 = 0 := rfl

lemma offset_succ (i : Fin fields.length) :
    offset fields (i + 1) = offset fields i + (fields.get i).type.width := by
  rw [offset, List.take_succ_eq_append_getElem i.isLt, payloadLength_append]
  rfl

lemma offset_of_length_le {index : Nat} (h : fields.length ≤ index) :
    offset fields index = payloadLength fields := by
  rw [offset, List.take_of_length_le h]

lemma offset_mono {i j : Nat} (h : i ≤ j) : offset fields i ≤ offset fields j := by
  have htake : fields.take i = (fields.take j).take i := by rw [List.take_take, Nat.min_eq_left h]
  have hsplit := payloadLength_append ((fields.take j).take i) ((fields.take j).drop i)
  rw [List.take_append_drop] at hsplit
  rw [offset, offset, htake, hsplit]
  exact Nat.le_add_right _ _

lemma offset_le_payloadLength (fields : List Field) (index : Nat) :
    offset fields index ≤ payloadLength fields := by
  rw [← offset_of_length_le (Nat.le_max_right index fields.length)]
  exact offset_mono (Nat.le_max_left _ _)

lemma window_end_le {i : Fin fields.length} {j : Nat} (h : i < j) :
    offset fields i + (fields.get i).type.width ≤ offset fields j := by
  rw [← offset_succ]
  exact offset_mono h

lemma window_end_le_payloadLength (i : Fin fields.length) :
    offset fields i + (fields.get i).type.width ≤ payloadLength fields := by
  rw [← offset_succ]
  exact offset_le_payloadLength fields (i + 1)

end Field

namespace Slot

variable {fields : List Field}

def offset (slot : Slot fields) : Nat := Field.offset fields slot.index

/-- Where the field at a slot starts in a frame. -/
def start (slot : Slot fields) : Nat := idLength + slot.offset

/-- The bytes of a frame that belong to the field at a slot. -/
def window (slot : Slot fields) (frame : List UInt8) : List UInt8 :=
  (frame.drop slot.start).take slot.field.type.width

lemma getElem?_index (slot : Slot fields) : fields[slot.index]? = some slot.field := by
  induction slot with
  | here => rfl
  | there slot ih => exact ih

lemma offset_add_width_le (slot : Slot fields) :
    slot.offset + slot.field.type.width ≤ Field.payloadLength fields := by
  obtain ⟨hindex, hfield⟩ := List.getElem?_eq_some_iff.mp slot.getElem?_index
  rw [← hfield]
  exact Field.window_end_le_payloadLength ⟨slot.index, hindex⟩

lemma exists_covering {position : Nat} (h : position < Field.payloadLength fields) :
    ∃ slot : Slot fields,
      slot.offset ≤ position ∧ position < slot.offset + slot.field.type.width := by
  induction fields generalizing position with
  | nil => exact absurd h (Nat.not_lt_zero _)
  | cons field fields ih =>
    rw [Field.payloadLength_cons] at h
    by_cases hfirst : position < field.type.width
    · exact ⟨.here, Nat.zero_le _, (Nat.zero_add field.type.width).symm ▸ hfirst⟩
    · obtain ⟨slot, hlo, hhi⟩ := @ih (position - field.type.width) (by omega)
      have hoffset : (Slot.there slot : Slot (field :: fields)).offset =
          field.type.width + slot.offset := rfl
      refine ⟨.there slot, ?_, ?_⟩
      · rw [hoffset]
        omega
      · rw [hoffset, Slot.field]
        omega

lemma getElem?_window (slot : Slot fields) (frame : List UInt8) {k : Nat}
    (h : k < slot.field.type.width) : (slot.window frame)[k]? = frame[slot.start + k]? := by
  rw [window, List.getElem?_take_of_lt h, List.getElem?_drop]

lemma window_take {kind : Kind} (slot : Slot kind.fields) {length : Nat}
    (h : kind.bodyLength ≤ length) (frame : List UInt8) :
    slot.window (frame.take length) = slot.window frame := by
  have hfits := slot.offset_add_width_le
  rw [Kind.bodyLength_eq] at h
  rw [window, window, List.drop_take, List.take_take, Nat.min_eq_left]
  simp only [start, idLength]
  omega

lemma window_eq (slot : Slot fields) (frame : List UInt8) :
    slot.window frame = ((frame.drop idLength).drop slot.offset).take slot.field.type.width := by
  rw [List.drop_drop]
  rfl

lemma window_cons_append (slot : Slot fields) {payload : List UInt8}
    (h : payload.length = Field.payloadLength fields) (id : UInt8) (rest : List UInt8) :
    slot.window (id :: payload ++ rest) =
      (payload.drop slot.offset).take slot.field.type.width := by
  have hfits := slot.offset_add_width_le
  rw [window_eq]
  change ((payload ++ rest).drop slot.offset).take slot.field.type.width = _
  rw [List.drop_append_of_le_length (by omega), List.take_append_of_le_length]
  rw [List.length_drop]
  omega

lemma length_window {kind : Kind} (slot : Slot kind.fields) {frame : List UInt8}
    (h : kind.bodyLength ≤ frame.length) : (slot.window frame).length = slot.field.type.width := by
  have hfits := slot.offset_add_width_le
  rw [Kind.bodyLength_eq] at h
  rw [window, List.length_take, List.length_drop]
  simp only [start, idLength]
  omega

end Slot

namespace Record

variable {fields : List Field}

lemma window_encode (record : Record fields) (slot : Slot fields) (rest : List UInt8) :
    ((record.encode ++ rest).drop slot.offset).take slot.field.type.width =
      slot.field.type.encode (record.get slot) := by
  induction slot with
  | @here field fields =>
    cases record with
    | cons cell cells =>
      change ((field.type.encode cell ++ cells.encode ++ rest).drop 0).take field.type.width = _
      rw [List.drop_zero, List.append_assoc]
      exact List.take_left' (field.type.length_encode cell)
  | @there field fields slot ih =>
    cases record with
    | cons cell cells =>
      have hlen := field.type.length_encode cell
      change ((field.type.encode cell ++ cells.encode ++ rest).drop
        (field.type.width + slot.offset)).take slot.field.type.width = _
      rw [← List.drop_drop, List.append_assoc, List.drop_left' hlen]
      exact ih cells

lemma get_decode (slot : Slot fields) (payload : List UInt8) :
    (decode fields payload).get slot = slot.field.type.store
      (slot.field.type.decode ((payload.drop slot.offset).take slot.field.type.width)) := by
  induction slot generalizing payload with
  | here => rfl
  | @there field fields slot ih =>
    change (decode fields (payload.drop field.type.width)).get slot = _
    rw [ih, List.drop_drop]
    rfl

end Record

namespace Message

lemma window_encode (message : Message) (slot : Slot message.kind.fields) :
    slot.window message.encode = slot.field.type.encode (message.record.get slot) := by
  rw [Slot.window_eq]
  exact message.record.window_encode slot _

end Message

namespace Kind

lemma get_read (kind : Kind) (slot : Slot kind.fields) (frame : List UInt8) :
    (kind.read frame).record.get slot =
      slot.field.type.store (slot.field.type.decode (slot.window frame)) := by
  rw [Slot.window_eq]
  exact Record.get_decode slot _

end Kind

end Fieldbus
