import Fieldbus.Proofs.LittleEndianWords
import Fieldbus.Proofs.ReachableMessages

/-!
# Frames are read back bit for bit

Receiving brings every field into range again and cuts every string again. On messages that are in
range this changes nothing, so the frame of such a message, with any bytes after it, is received as
the message itself. No frame of a reachable message is therefore the start of another one's.
-/

namespace Fieldbus

namespace FixedString

variable {capacity : Nat}

lemma eq_of_raw_eq {s t : FixedString capacity} (h : s.raw = t.raw) : s = t := by
  cases s
  cases t
  congr

lemma upToNul_append_zeros {content : List UInt8} (h : 0 ∉ content) (n : Nat) :
    upToNul (content ++ List.replicate n 0) = content := by
  have hpos : ∀ byte ∈ content, decide (byte ≠ 0) = true := by
    intro byte hbyte
    have hne : byte ≠ 0 := fun heq => h (heq ▸ hbyte)
    simpa using hne
  have hzeros : (List.replicate n (0 : UInt8)).takeWhile (fun byte => decide (byte ≠ 0)) = [] := by
    cases n <;> simp [List.replicate_succ]
  rw [upToNul, List.takeWhile_append_of_pos hpos, hzeros, List.append_nil]

lemma upToNul_eq_self {bytes : List UInt8} (h : 0 ∉ bytes) : upToNul bytes = bytes := by
  have hzeros := upToNul_append_zeros h 0
  rwa [List.replicate_zero, List.append_nil] at hzeros

lemma content_ofBytes (capacity : Nat) (bytes : List UInt8) :
    (ofBytes capacity bytes).content = kept capacity bytes :=
  upToNul_append_zeros (not_mem_kept capacity bytes) _

lemma ofBytes_raw {s : FixedString capacity} (h : s.Terminated) : ofBytes capacity s.raw = s := by
  obtain ⟨content, hnul, hlen, hraw⟩ := h
  have hkept : kept capacity s.raw = content := by
    rw [kept, hraw, upToNul_append_zeros hnul, List.take_of_length_le (by omega)]
  apply eq_of_raw_eq
  change kept capacity s.raw ++ List.replicate (capacity - (kept capacity s.raw).length) 0 = s.raw
  rw [hkept, hraw]

end FixedString

namespace FieldType

def input : (type : FieldType) → type.Cell → type.Input
  | .int8 _, v => Int8.toInt v
  | .int16 _, v => Int16.toInt v
  | .uint8 _, v => (UInt8.toNat v : Int)
  | .float32 _, x => x
  | .chars _, s => FixedString.raw s

lemma length_encode (type : FieldType) (cell : type.Cell) :
    (type.encode cell).length = type.width := by
  cases type with
  | int8 range => rfl
  | int16 range => rfl
  | uint8 range => rfl
  | float32 range => rfl
  | chars capacity => exact FixedString.length_raw cell

lemma decode_encode (type : FieldType) (cell : type.Cell) :
    type.decode (type.encode cell) = type.input cell := by
  cases type with
  | int8 range => rfl
  | int16 range =>
    have hword := LittleEndian.decode16_encode16 (Int16.toUInt16 cell) []
    rw [List.append_nil] at hword
    simp only [encode, decode, input, hword, Int16.toInt16_toUInt16]
  | uint8 range => rfl
  | float32 range =>
    have hword := LittleEndian.decode32_encode32 (Binary32.bits cell) []
    rw [List.append_nil] at hword
    simp only [encode, decode, input, hword]
  | chars capacity => rfl

lemma store_input {type : FieldType} {cell : type.Cell} (h : type.InRange cell) :
    type.store (type.input cell) = cell := by
  cases type with
  | int8 range => exact Bounds.applyWide_toInt h
  | int16 range => exact Bounds.applyWide_toInt h
  | uint8 range => exact Bounds.applyWide_toInt h
  | float32 range => exact Bounds.apply_eq_self h.1
  | chars capacity => exact FixedString.ofBytes_raw h

end FieldType

namespace Record

variable {fields : List Field}

lemma length_encode (record : Record fields) :
    record.encode.length = Field.payloadLength fields := by
  induction record with
  | nil => rfl
  | @cons field fields cell cells ih =>
    rw [encode, List.length_append, FieldType.length_encode, ih]
    rfl

lemma decode_encode {record : Record fields} (h : record.InRange) (rest : List UInt8) :
    decode fields (record.encode ++ rest) = record := by
  induction record with
  | nil => rfl
  | @cons field fields cell cells ih =>
    obtain ⟨hcell, hcells⟩ := inRange_cons.mp h
    have hlen := field.type.length_encode cell
    rw [encode, List.append_assoc, decode, List.take_left' hlen, List.drop_left' hlen,
      FieldType.decode_encode, FieldType.store_input hcell, ih hcells]

end Record

namespace Message

lemma length_body (message : Message) : message.body.length = message.kind.bodyLength := by
  rw [body, List.length_cons, Record.length_encode, Kind.bodyLength_eq, Nat.add_comm]

lemma length_encode (message : Message) : message.encode.length = message.wireLength := by
  rw [encode, List.length_append, length_body, LittleEndian.length_encode16]
  rfl

lemma take_encode (message : Message) (rest : List UInt8) :
    (message.encode ++ rest).take message.kind.bodyLength = message.body := by
  rw [encode, List.append_assoc, List.take_left' message.length_body]

/-- The checksum of a frame is right, whatever the fields hold and whatever follows. -/
lemma checked_encode (message : Message) (rest : List UInt8) :
    message.kind.Checked (message.encode ++ rest) := by
  rw [Kind.Checked, take_encode, encode, List.append_assoc, List.drop_left' message.length_body,
    LittleEndian.decode16_encode16]

lemma kind_decode_encode {message : Message} (h : message.InRange) (rest : List UInt8) :
    message.kind.decode (message.encode ++ rest) = .ok message := by
  have hrecord := Record.decode_encode h []
  rw [List.append_nil] at hrecord
  rw [Kind.decode_eq_ok_iff]
  refine ⟨?_, message.checked_encode rest, rfl, ?_⟩
  · rw [List.length_append, length_encode]
    exact Nat.le_add_right _ _
  · rw [take_encode, Kind.read]
    change (⟨message.kind, Record.decode message.kind.fields message.record.encode⟩ : Message) =
      message
    rw [hrecord]

lemma decodeAs_encode {message : Message} (h : message.InRange) (rest : List UInt8) :
    decodeAs message.id (message.encode ++ rest) = .ok message :=
  (decodeAs_kind_id message.kind _).trans (kind_decode_encode h rest)

lemma decode_encode {message : Message} (h : message.InRange) (rest : List UInt8) :
    decode (message.encode ++ rest) = .ok message :=
  decodeAs_encode h rest

/-- A frame that starts another one is the same frame, since both are received alike. -/
lemma eq_of_prefix_encode {m₁ m₂ : Message} (h₁ : m₁.InRange) (h₂ : m₂.InRange)
    (h : m₁.encode <+: m₂.encode) : m₁ = m₂ := by
  obtain ⟨rest, hrest⟩ := h
  have hread₁ := decode_encode h₁ rest
  have hread₂ := decode_encode h₂ []
  rw [List.append_nil, ← hrest, hread₁] at hread₂
  exact Except.ok.inj hread₂

/-- The frame of a reachable message, with any bytes after it, is received as that very message: by
the kind that its first byte names, by its id, and by its own kind. Hence different messages have
different frames, and no frame is a proper start of another. -/
theorem reachable_frame_roundtrip {m₁ m₂ : Message} (h₁ : m₁.Reachable) (h₂ : m₂.Reachable)
    (rest : List UInt8) :
    (decode (m₁.encode ++ rest) = .ok m₁ ∧ decodeAs m₁.id (m₁.encode ++ rest) = .ok m₁ ∧
      m₁.kind.decode (m₁.encode ++ rest) = .ok m₁) ∧
    (m₁.encode = m₂.encode → m₁ = m₂) ∧
    (m₁.encode <+: m₂.encode → m₁.encode = m₂.encode) := by
  refine ⟨⟨decode_encode h₁.inRange rest, decodeAs_encode h₁.inRange rest,
    kind_decode_encode h₁.inRange rest⟩, ?_, ?_⟩
  · intro h
    exact eq_of_prefix_encode h₁.inRange h₂.inRange (h ▸ List.prefix_refl _)
  · intro h
    rw [eq_of_prefix_encode h₁.inRange h₂.inRange h]

theorem reachable_frame_roundtrip_negative_zero :
    let message := (fresh .upPlop).run
      [.put "decimal" (.float ⟨0x80000000⟩), .put "name" (.bytes [0xFF, 0x41, 0, 0x42])]
    message.Reachable ∧
      message.body = [2, 0, 0, 0, 0x80, 0, 0, 0xFF, 0x41, 0, 0, 0, 0, 0, 0, 0, 0, 0, 0] ∧
      decode (message.encode ++ [1, 2, 3]) = .ok message :=
  ⟨⟨_, _, rfl⟩, by decide,
    (reachable_frame_roundtrip ⟨_, _, rfl⟩ ⟨.upPlop, [], rfl⟩ [1, 2, 3]).1.1⟩

end Message

end Fieldbus
