import Fieldbus.Proofs.FieldWindows
import Fieldbus.Proofs.ReceptionOrder

/-!
# Receiving brings frames into canonical form

Among the frames that are received as the same message one is the message's own. A received frame is
that one exactly if nothing was changed on the way in: every number of it lies in its declared
range, and every string has a terminator and only zero bytes after it. Sending what was received
therefore gives a frame that is received as the same message, and sending that again gives the same
frame.
-/

namespace Fieldbus

namespace FixedString

variable {capacity : Nat}

/-- There is a zero byte, and no other byte after the first one. -/
def Padded (bytes : List UInt8) : Prop :=
  0 ∈ bytes ∧ ∀ byte ∈ bytes.dropWhile (· ≠ 0), byte = 0

lemma dropWhile_append_zeros {content : List UInt8} (h : 0 ∉ content) (n : Nat) :
    (content ++ List.replicate n 0).dropWhile (· ≠ 0) = List.replicate n 0 := by
  have hsplit := List.takeWhile_append_dropWhile (p := (· ≠ 0)) (l := content ++ List.replicate n 0)
  have htake := upToNul_append_zeros h n
  rw [upToNul] at htake
  rw [htake] at hsplit
  exact List.append_cancel_left hsplit

lemma terminated_iff_padded (s : FixedString capacity) : s.Terminated ↔ Padded s.raw := by
  constructor
  · rintro ⟨content, hnul, hlen, hraw⟩
    rw [Padded, hraw, dropWhile_append_zeros hnul]
    constructor
    · exact List.mem_append_right _ (List.mem_replicate.mpr ⟨by omega, rfl⟩)
    · intro byte hbyte
      exact List.eq_of_mem_replicate hbyte
  · rintro ⟨hmem, hzeros⟩
    have hsplit : upToNul s.raw ++ s.raw.dropWhile (· ≠ 0) = s.raw :=
      List.takeWhile_append_dropWhile
    have hrest : s.raw.dropWhile (· ≠ 0) ≠ [] := by
      intro hnil
      rw [hnil, List.append_nil] at hsplit
      exact not_mem_upToNul s.raw (hsplit.symm ▸ hmem)
    have hlen := congrArg List.length hsplit
    rw [List.length_append, s.length_raw] at hlen
    have hpos := List.length_pos_iff.mpr hrest
    refine ⟨upToNul s.raw, not_mem_upToNul s.raw, by omega, ?_⟩
    rw [← List.eq_replicate_iff.mpr ⟨by omega, hzeros⟩, hsplit]

end FixedString

namespace FieldType

/-- Input that is stored unchanged: a number in its declared range, or bytes that end in padding. -/
def Fits : (type : FieldType) → type.Input → Prop
  | .int8 range, n => Int8.toInt range.min ≤ n ∧ n ≤ Int8.toInt range.max
  | .int16 range, n => Int16.toInt range.min ≤ n ∧ n ≤ Int16.toInt range.max
  | .uint8 range, n => (UInt8.toNat range.min : Int) ≤ n ∧ n ≤ UInt8.toNat range.max
  | .float32 range, x => Binary32.isNaN x = false ∧ range.min ≤ x ∧ x ≤ range.max
  | .chars _, bytes => FixedString.Padded bytes

/-- Bytes of a window that stand for such input. -/
def Canonical (type : FieldType) (bytes : List UInt8) : Prop :=
  ∃ input, type.StandsFor bytes input ∧ type.Fits input

variable {type : FieldType}

lemma standsFor_unique {bytes : List UInt8} {input other : type.Input}
    (h : type.StandsFor bytes input) (hother : type.StandsFor bytes other) : input = other := by
  cases type with
  | int8 range => exact h.trans hother.symm
  | int16 range => exact h.trans hother.symm
  | uint8 range => exact h.trans hother.symm
  | float32 range =>
    have hbits : Binary32.bits input = Binary32.bits other :=
      UInt32.toNat_inj.mp (h.trans hother.symm)
    cases input
    cases other
    exact congrArg Binary32.mk hbits
  | chars capacity => exact h.trans hother.symm

lemma canonical_iff {bytes : List UInt8} (h : bytes.length = type.width) :
    type.Canonical bytes ↔ type.Fits (type.decode bytes) := by
  constructor
  · rintro ⟨input, hinput, hfits⟩
    rwa [← standsFor_unique hinput (standsFor_decode h)]
  · intro hfits
    exact ⟨_, standsFor_decode h, hfits⟩

lemma inRange_iff_fits (hwf : type.WellFormed) (cell : type.Cell) :
    type.InRange cell ↔ type.Fits (type.input cell) := by
  cases type with
  | int8 range => exact Bounds.contains_iff_toInt
  | int16 range => exact Bounds.contains_iff_toInt
  | uint8 range => exact Bounds.contains_iff_toInt
  | float32 range =>
    constructor
    · rintro ⟨hcell, _⟩
      obtain ⟨hlo, hhi⟩ := Bounds.contains_iff.mp hcell
      exact ⟨hlo.2.1, hlo, hhi⟩
    · rintro ⟨_, hrange⟩
      exact inRange_float32 hwf (Bounds.contains_iff.mpr hrange)
  | chars capacity => exact FixedString.terminated_iff_padded cell

lemma exists_encode_eq {bytes : List UInt8} (h : bytes.length = type.width) :
    ∃ cell, type.encode cell = bytes := by
  cases type with
  | int8 range =>
    obtain ⟨byte, rfl⟩ := List.length_eq_one_iff.mp h
    exact ⟨byte.toInt8, rfl⟩
  | int16 range =>
    refine ⟨(LittleEndian.decode16 bytes).toInt16, ?_⟩
    exact LittleEndian.encode16_decode16 h
  | uint8 range =>
    obtain ⟨byte, rfl⟩ := List.length_eq_one_iff.mp h
    exact ⟨byte, rfl⟩
  | float32 range => exact ⟨⟨LittleEndian.decode32 bytes⟩, LittleEndian.encode32_decode32 h⟩
  | chars capacity => exact ⟨⟨bytes, h⟩, rfl⟩

lemma encode_store_decode_iff (hwf : type.WellFormed) {bytes : List UInt8}
    (h : bytes.length = type.width) :
    type.encode (type.store (type.decode bytes)) = bytes ↔ type.Canonical bytes := by
  rw [canonical_iff h]
  obtain ⟨cell, rfl⟩ := exists_encode_eq h
  rw [decode_encode]
  constructor
  · intro hsame
    have hinput := congrArg type.decode hsame
    rw [decode_encode, decode_encode] at hinput
    rw [← hinput]
    exact (inRange_iff_fits hwf _).mp (inRange_store hwf _)
  · intro hfits
    rw [store_input ((inRange_iff_fits hwf cell).mpr hfits)]

end FieldType

namespace Record

lemma encode_decode_cons_iff {field : Field} {fields : List Field} {payload : List UInt8}
    (h : field.type.width ≤ payload.length) :
    (decode (field :: fields) payload).encode = payload ↔
      field.type.encode (field.type.store (field.type.decode (payload.take field.type.width))) =
          payload.take field.type.width ∧
        (decode fields (payload.drop field.type.width)).encode = payload.drop field.type.width := by
  rw [decode, encode]
  conv_lhs => rhs; rw [← List.take_append_drop field.type.width payload]
  constructor
  · intro happend
    exact List.append_inj happend (by rw [FieldType.length_encode, List.length_take_of_le h])
  · rintro ⟨hleft, hright⟩
    rw [hleft, hright]

lemma encode_decode_eq_iff {fields : List Field} (hwf : ∀ field ∈ fields, field.type.WellFormed)
    {payload : List UInt8} (h : payload.length = Field.payloadLength fields) :
    (decode fields payload).encode = payload ↔ ∀ slot : Slot fields,
      slot.field.type.Canonical ((payload.drop slot.offset).take slot.field.type.width) := by
  induction fields generalizing payload with
  | nil =>
    constructor
    · intro _ slot
      nomatch slot
    · intro _
      exact (List.length_eq_zero_iff.mp h).symm
  | cons field fields ih =>
    rw [Field.payloadLength_cons] at h
    have hfits : field.type.width ≤ payload.length := by omega
    have htail : (payload.drop field.type.width).length = Field.payloadLength fields := by
      rw [List.length_drop]
      omega
    have hcell := FieldType.encode_store_decode_iff (hwf field List.mem_cons_self)
      (List.length_take_of_le hfits)
    have hcells := ih (fun other hother => hwf other (List.mem_cons_of_mem _ hother)) htail
    rw [encode_decode_cons_iff hfits, hcell, hcells]
    constructor
    · rintro ⟨hhere, hthere⟩ slot
      cases slot with
      | here => exact hhere
      | there slot =>
        have hslot := hthere slot
        rw [List.drop_drop] at hslot
        exact hslot
    · intro hall
      refine ⟨hall .here, fun slot => ?_⟩
      rw [List.drop_drop]
      exact hall (.there slot)

end Record

lemma Kind.parts_of_decode {kind : Kind} {buffer : List UInt8} {message : Message}
    (h : kind.decode buffer = .ok message) :
    ∃ payload, payload.length = Field.payloadLength kind.fields ∧
      buffer.take kind.wireLength =
        kind.id :: payload ++ LittleEndian.encode16 (checksum (kind.id :: payload)) ∧
      message = ⟨kind, Record.decode kind.fields payload⟩ := by
  obtain ⟨hlen, _⟩ := decode_eq_ok_iff.mp h
  obtain ⟨id, payload, low, high, hframe, hpayload⟩ :=
    exists_parts_of_length (List.length_take_of_le hlen)
  rw [← decode_take hlen, hframe, decode_parts hpayload] at h
  split_ifs at h with hsum hid
  obtain rfl : id = kind.id := Decidable.not_not.mp hid
  refine ⟨payload, hpayload, ?_, (Except.ok.inj h).symm⟩
  rw [hframe, ← Decidable.not_not.mp hsum, LittleEndian.encode16_decode16 rfl]

namespace Message

lemma encode_eq_iff {message : Message} {payload : List UInt8}
    (h : payload.length = Field.payloadLength message.kind.fields) :
    message.encode =
        message.id :: payload ++ LittleEndian.encode16 (checksum (message.id :: payload)) ↔
      message.record.encode = payload := by
  have hlen : message.body.length = (message.id :: payload).length := by
    rw [body, List.length_cons, List.length_cons, Record.length_encode, h]
  constructor
  · intro hframe
    exact List.tail_eq_of_cons_eq (List.append_inj hframe hlen).1
  · rintro rfl
    rfl

lemma kind_decode_of_decode {buffer : List UInt8} {message : Message}
    (h : decode buffer = .ok message) : message.kind.decode buffer = .ok message := by
  cases buffer with
  | nil => simp [decode] at h
  | cons first rest =>
    obtain ⟨kind, _, hdecode⟩ := decodeAs_eq_ok_iff.mp h
    obtain ⟨_, _, _, rfl⟩ := Kind.decode_eq_ok_iff.mp hdecode
    exact hdecode

/-- Receives a frame and sends it on. -/
def relay (buffer : List UInt8) : Except FrameError (List UInt8) := (decode buffer).map encode

/-- What was received is sent as it came exactly if all its fields were canonical. Whether or not,
it is received once more as the same message, so that relaying a frame twice is relaying it once. -/
theorem relay_canonicalises {buffer : List UInt8} {message : Message}
    (h : decode buffer = .ok message) :
    (message.encode = buffer.take message.wireLength ↔
      ∀ slot : Slot message.kind.fields, slot.field.type.Canonical (slot.window buffer)) ∧
    decode message.encode = .ok message ∧
    relay buffer = .ok message.encode ∧ (relay buffer >>= relay) = relay buffer := by
  have hdecode := kind_decode_of_decode h
  obtain ⟨payload, hpayload, hframe, hmessage⟩ := Kind.parts_of_decode hdecode
  have hrecord : message.record = Record.decode message.kind.fields payload := by
    rw [hmessage]
  have hinRange : message.InRange := by
    rw [InRange, hrecord]
    exact Record.inRange_decode message.kind.wellFormed_fields payload
  have hround : decode message.encode = .ok message := by
    have hround := decode_encode hinRange []
    rwa [List.append_nil] at hround
  have hrelay {frame : List UInt8} (hframe : decode frame = .ok message) :
      relay frame = .ok message.encode := by
    rw [relay, hframe]
    rfl
  refine ⟨?_, hround, hrelay h, ?_⟩
  · rw [wireLength, hframe]
    refine (encode_eq_iff hpayload).trans ?_
    rw [hrecord, Record.encode_decode_eq_iff message.kind.wellFormed_fields hpayload]
    apply forall_congr'
    intro slot
    rw [← slot.window_take (Nat.sub_le _ _), hframe, slot.window_cons_append hpayload]
  · rw [hrelay h]
    exact hrelay hround

theorem relay_canonicalises_garbage :
    let buffer : List UInt8 := [1, 65, 0, 66, 0, 0, 0, 0, 0, 0, 0, 169, 132, 9]
    let message := (fresh .interMcuProut).run [.put "odeur" (.bytes [65])]
    decode buffer = .ok message ∧ message.encode ≠ buffer.take message.wireLength ∧
      (¬∀ slot : Slot message.kind.fields, slot.field.type.Canonical (slot.window buffer)) ∧
      relay buffer = .ok message.encode ∧ (relay buffer >>= relay) = relay buffer := by
  intro buffer message
  have h : decode buffer = .ok message := rfl
  have hne : message.encode ≠ buffer.take message.wireLength := by decide
  obtain ⟨hiff, _, hrelay, htwice⟩ := relay_canonicalises h
  exact ⟨h, hne, fun hall => hne (hiff.mpr hall), hrelay, htwice⟩

end Message

end Fieldbus
