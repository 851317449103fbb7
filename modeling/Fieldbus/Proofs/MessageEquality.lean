import Fieldbus.Proofs.Adjustments
import Fieldbus.Proofs.FieldWrites

/-!
# Equality of messages and equality on the wire

Equality of messages compares floats as numbers, so a NaN would differ from itself and the two zeros
are the same. A message that is in range holds no NaN; its equality is therefore equality once all
zeros have lost their sign. On the wire this is one byte for each such float, and the checksum.
-/

namespace Fieldbus

namespace Binary32

def negativeZero : Binary32 := ⟨0x80000000⟩

/-- A float whose zero has no sign. -/
def plain (x : Binary32) : Binary32 := if x = negativeZero then zero else x

variable {x y : Binary32}

lemma magnitude_eq_zero_iff : x.magnitude = 0 ↔ x = zero ∨ x = negativeZero := by
  constructor
  · intro h
    have hlt := x.bits.toNat_lt
    unfold magnitude signBit at h
    have hbits : x.bits.toNat = 0 ∨ x.bits.toNat = 0x80000000 := by omega
    cases x
    exact hbits.imp (fun h => congrArg mk (UInt32.toNat_inj.mp h))
      fun h => congrArg mk (UInt32.toNat_inj.mp h)
  · rintro (rfl | rfl) <;> rfl

lemma plain_eq_iff : x.plain = y.plain ↔ x = y ∨ x.magnitude = 0 ∧ y.magnitude = 0 := by
  simp only [magnitude_eq_zero_iff, plain]
  grind

lemma same_iff_plain_eq (hy : y.isNaN = false) : x.same y = true ↔ x.plain = y.plain := by
  rw [same_iff, plain_eq_iff]
  exact and_iff_right hy

end Binary32

namespace FieldType

variable {type : FieldType} {v w : type.Cell}

def plain : (type : FieldType) → type.Cell → type.Cell
  | .float32 _, x => Binary32.plain x
  | _, cell => cell

lemma plain_plain (type : FieldType) (cell : type.Cell) :
    type.plain (type.plain cell) = type.plain cell := by
  cases type with
  | float32 range =>
    simp only [plain, Binary32.plain]
    split_ifs <;> rfl
  | _ => rfl

lemma same_iff_plain_eq (hw : type.InRange w) :
    type.same v w = true ↔ type.plain v = type.plain w := by
  cases type with
  | float32 range => exact Binary32.same_iff_plain_eq (Bounds.contains_iff.mp hw.1).1.2.1
  | _ => exact decide_eq_true_iff

lemma encode_injective (h : type.encode v = type.encode w) : v = w := by
  have hinput : type.input v = type.input w := by
    rw [← decode_encode, ← decode_encode, h]
  cases type with
  | int8 range => exact Int8.toInt_inj.mp hinput
  | int16 range => exact Int16.toInt_inj.mp hinput
  | uint8 range => exact UInt8.toNat_inj.mp (Int.ofNat_inj.mp hinput)
  | float32 range => exact hinput
  | chars capacity => exact FixedString.eq_of_raw_eq hinput

/-- The wire image of a field, with a positive zero in place of a negative one. -/
def plainImage (type : FieldType) (image : List UInt8) : List UInt8 :=
  if type.shape = .float ∧ image = [0, 0, 0, 0x80] then [0, 0, 0, 0] else image

lemma encode_plain (type : FieldType) (cell : type.Cell) :
    type.encode (type.plain cell) = type.plainImage (type.encode cell) := by
  cases type with
  | float32 range =>
    by_cases hzero : cell = Binary32.negativeZero
    · rw [hzero, plainImage, if_pos ⟨rfl, rfl⟩, plain, Binary32.plain, if_pos rfl]
      rfl
    · have himage : (FieldType.float32 range).encode cell ≠ [0, 0, 0, 0x80] := fun h =>
        hzero (@encode_injective (.float32 range) cell Binary32.negativeZero h)
      rw [plainImage, if_neg fun h => himage h.2, plain, Binary32.plain, if_neg hzero]
  | _ => exact (if_neg fun h => absurd h.1 (by simp [shape])).symm

/-- The wire images of the two zeros, which differ in the last byte alone. -/
def zeroImages : List (List UInt8) := [[0, 0, 0, 0], [0, 0, 0, 0x80]]

lemma getElem?_zeroImages {image other : List UInt8} (h : image ∈ zeroImages)
    (hother : other ∈ zeroImages) {k : Nat} (hk : k ≠ 3) : image[k]? = other[k]? := by
  have hall : ∀ image ∈ zeroImages, ∀ other ∈ zeroImages, image.length = 4 ∧ other.length = 4 ∧
      ∀ k < 4, k ≠ 3 → image[k]? = other[k]? := by decide
  obtain ⟨hlen, hlen', heq⟩ := hall image h other hother
  by_cases hlt : k < 4
  · exact heq k hlt hk
  · rw [List.getElem?_eq_none (by omega), List.getElem?_eq_none (by omega)]

lemma encode_eq_of_plain_eq (h : type.plain v = type.plain w) :
    type.encode v = type.encode w ∨
      type.shape = .float ∧ type.encode v ∈ zeroImages ∧ type.encode w ∈ zeroImages := by
  cases type with
  | float32 range =>
    have himage {x : Binary32} (hx : x.magnitude = 0) :
        (FieldType.float32 range).encode x ∈ zeroImages := by
      obtain rfl | rfl := Binary32.magnitude_eq_zero_iff.mp hx
      · exact .head _
      · exact .tail _ (.head _)
    obtain hsame | ⟨hv, hw⟩ := Binary32.plain_eq_iff.mp h
    · exact .inl (congrArg _ hsame)
    · exact .inr ⟨rfl, himage hv, himage hw⟩
  | _ => exact .inl (congrArg _ h)

end FieldType

namespace Record

variable {fields : List Field}

def plain : {fields : List Field} → Record fields → Record fields
  | [], .nil => .nil
  | field :: _, .cons cell cells => .cons (field.type.plain cell) cells.plain

lemma get_plain (record : Record fields) (slot : Slot fields) :
    record.plain.get slot = slot.field.type.plain (record.get slot) := by
  induction slot with
  | here => cases record; rfl
  | there slot ih => cases record; exact ih _

/-- Records that are in range are equal as numbers exactly if they are equal without the signs of
their zeros. -/
lemma same_iff_plain_eq {record other : Record fields} (h : other.InRange) :
    record.same other = true ↔ record.plain = other.plain := by
  induction record with
  | nil =>
    cases other
    exact iff_of_true rfl rfl
  | cons cell cells ih =>
    cases other with
    | cons cell' cells' =>
      obtain ⟨hcell, hcells⟩ := inRange_cons.mp h
      simp only [same, plain, Bool.and_eq_true, FieldType.same_iff_plain_eq hcell, ih hcells,
        cons.injEq]

lemma plain_set_plain (record : Record fields) (slot : Slot fields) :
    (record.set slot (slot.field.type.plain (record.get slot))).plain = record.plain := by
  apply ext_get
  intro other
  by_cases hother : other = slot
  · rw [hother, get_plain, get_plain, get_set, FieldType.plain_plain]
  · rw [get_plain, get_plain, get_set_of_ne record hother]

end Record

/-! ## On the wire -/

def Slot.plainAt {fields : List Field} (bytes : List UInt8) (slot : Slot fields) : List UInt8 :=
  Cursor.overwrite bytes slot.start (slot.field.type.plainImage (slot.window bytes))

/-- The bytes of a frame with a positive zero in place of every negative one in the window of a
float. -/
def Kind.plainWindows (kind : Kind) (bytes : List UInt8) : List UInt8 :=
  (Slot.all kind.fields).foldl Slot.plainAt bytes

namespace Message

def plain (message : Message) : Message := ⟨message.kind, message.record.plain⟩

lemma kind_eq_of_plain_eq {m₁ m₂ : Message} (h : m₁.plain = m₂.plain) : m₁.kind = m₂.kind :=
  (mk.inj h).1

lemma same_iff_plain_eq {m₁ m₂ : Message} (h : m₂.InRange) :
    m₁.same m₂ = true ↔ m₁.plain = m₂.plain := by
  obtain ⟨kind, record⟩ := m₁
  obtain ⟨other, record'⟩ := m₂
  by_cases hkind : kind = other
  · subst hkind
    have hsame : same ⟨kind, record⟩ ⟨kind, record'⟩ = record.same record' := dif_pos rfl
    rw [hsame, Record.same_iff_plain_eq h, plain, plain, mk.injEq]
    simp
  · have hsame : same ⟨kind, record⟩ ⟨other, record'⟩ = false := dif_neg hkind
    rw [hsame, plain, plain, mk.injEq]
    simp [hkind]

lemma take_bodyLength_encode (message : Message) :
    message.encode.take message.kind.bodyLength = message.body := by
  have hbody := message.take_encode []
  rwa [List.append_nil] at hbody

lemma window_body (message : Message) (slot : Slot message.kind.fields) :
    slot.window message.body = slot.field.type.encode (message.record.get slot) := by
  rw [← take_bodyLength_encode, slot.window_take le_rfl, window_encode]

lemma eq_of_body_eq {m₁ m₂ : Message} (hkind : m₁.kind = m₂.kind) (h : m₁.body = m₂.body) :
    m₁ = m₂ := by
  obtain ⟨kind, record⟩ := m₁
  obtain ⟨other, record'⟩ := m₂
  obtain rfl : kind = other := hkind
  congr 1
  apply Record.ext_get
  intro slot
  apply FieldType.encode_injective
  rw [← window_body ⟨kind, record⟩ slot, h, window_body ⟨kind, record'⟩ slot]

lemma plainAt_body {kind : Kind} (record : Record kind.fields) (slot : Slot kind.fields) :
    Slot.plainAt (body ⟨kind, record⟩) slot =
      body ⟨kind, record.set slot (slot.field.type.plain (record.get slot))⟩ := by
  rw [body_set ⟨kind, record⟩ slot, Slot.plainAt, window_body ⟨kind, record⟩ slot,
    FieldType.encode_plain]

/-- Going through windows in any order takes the signs of their fields. What the message is without
signs stays the same on the way. -/
lemma foldl_plainAt_body {kind : Kind} {target : Record kind.fields}
    (order : List (Slot kind.fields)) {record : Record kind.fields} (h : record.plain = target) :
    order.foldl Slot.plainAt (body ⟨kind, record⟩) =
      body ⟨kind, order.foldl (fun held slot => held.set slot (target.get slot)) record⟩ := by
  induction order generalizing record with
  | nil => rfl
  | cons slot order ih =>
    have hset := record.plain_set_plain slot
    rw [List.foldl_cons, List.foldl_cons, plainAt_body, ← Record.get_plain, h]
    rw [← Record.get_plain, h] at hset
    exact ih hset

lemma plainWindows_body (message : Message) :
    message.kind.plainWindows message.body = message.plain.body := by
  refine (foldl_plainAt_body (Slot.all message.kind.fields) rfl).trans ?_
  rw [Record.foldl_set_all]
  rfl

/-- The position holds the sign of a float that is a zero in both messages. -/
def ZeroSignAt (m₁ m₂ : Message) (i : Nat) : Prop :=
  ∃ slot : Slot m₁.kind.fields, slot.field.type.shape = .float ∧ i = slot.start + 3 ∧
    slot.window m₁.encode ∈ FieldType.zeroImages ∧ slot.window m₂.encode ∈ FieldType.zeroImages

lemma zeroSignAt_of_plain_eq {m₁ m₂ : Message} (h : m₁.plain = m₂.plain) {i : Nat}
    (hi : i < m₁.kind.bodyLength) (hne : m₁.encode[i]? ≠ m₂.encode[i]?) : m₁.ZeroSignAt m₂ i := by
  obtain ⟨kind, record⟩ := m₁
  obtain ⟨other, record'⟩ := m₂
  obtain rfl : kind = other := kind_eq_of_plain_eq h
  have hrecord : record.plain = record'.plain := eq_of_heq (Message.mk.inj h).2
  -- The first byte is the id of the kind, which both have.
  have hpos : 0 < i := Nat.pos_of_ne_zero fun hzero => hne (by rw [hzero]; rfl)
  have hend : i < 1 + Field.payloadLength kind.fields := hi
  obtain ⟨slot, hlo, hhi⟩ := @Slot.exists_covering kind.fields (i - 1) (by omega)
  have hstart : slot.start = 1 + slot.offset := rfl
  obtain ⟨k, rfl⟩ : ∃ k, i = slot.start + k := ⟨i - slot.start, by omega⟩
  have hk : k < slot.field.type.width := by omega
  rw [← slot.getElem?_window _ hk, ← slot.getElem?_window _ hk] at hne
  have hleft := window_encode ⟨kind, record⟩ slot
  have hright := window_encode ⟨kind, record'⟩ slot
  have hcell : slot.field.type.plain (record.get slot) =
      slot.field.type.plain (record'.get slot) := by
    rw [← Record.get_plain, ← Record.get_plain, hrecord]
  obtain hsame | ⟨hfloat, himage, himage'⟩ := FieldType.encode_eq_of_plain_eq hcell
  · exact absurd (by rw [hleft, hright, hsame]) hne
  · rw [← hleft] at himage
    rw [← hright] at himage'
    have hlast : k = 3 := by
      by_contra hk
      exact hne (FieldType.getElem?_zeroImages himage himage' hk)
    exact ⟨slot, hfloat, by rw [hlast], himage, himage'⟩

/-- On reachable messages equality is an equivalence. Messages are equal exactly if they are of the
same kind and their frames without the checksums become the same when every float that holds a
negative zero gets a positive one. So messages with the same frame are equal, and the frames of
equal messages differ in their checksums and in the signs of zeros only. -/
theorem same_iff_frames_agree :
    Equivalence (fun m₁ m₂ : {message : Message // message.Reachable} =>
      m₁.val.same m₂.val = true) ∧
    ∀ m₁ m₂ : Message, m₁.Reachable → m₂.Reachable →
      (m₁.same m₂ = true ↔ m₁.kind = m₂.kind ∧
        m₁.kind.plainWindows (m₁.encode.take m₁.kind.bodyLength) =
          m₂.kind.plainWindows (m₂.encode.take m₂.kind.bodyLength)) ∧
      (m₁.encode = m₂.encode → m₁.same m₂ = true) ∧
      (m₁.same m₂ = true → ∀ i, m₁.encode[i]? ≠ m₂.encode[i]? →
        m₁.kind.bodyLength ≤ i ∧ i < m₁.wireLength ∨ m₁.ZeroSignAt m₂ i) := by
  have hplain {m₁ m₂ : Message} (h₂ : m₂.Reachable) : m₁.same m₂ = true ↔ m₁.plain = m₂.plain :=
    same_iff_plain_eq h₂.inRange
  refine ⟨⟨?_, ?_, ?_⟩, ?_⟩
  · intro m
    exact (hplain m.property).mpr rfl
  · intro m₁ m₂ h
    exact (hplain m₁.property).mpr ((hplain m₂.property).mp h).symm
  · intro m₁ m₂ m₃ h₁₂ h₂₃
    exact (hplain m₃.property).mpr
      (((hplain m₂.property).mp h₁₂).trans ((hplain m₃.property).mp h₂₃))
  · intro m₁ m₂ h₁ h₂
    rw [hplain h₂, take_bodyLength_encode, take_bodyLength_encode, plainWindows_body,
      plainWindows_body]
    refine ⟨⟨?_, ?_⟩, ?_, ?_⟩
    · intro h
      exact ⟨kind_eq_of_plain_eq h, congrArg body h⟩
    · rintro ⟨hkind, hbody⟩
      exact eq_of_body_eq hkind hbody
    · intro h
      rw [eq_of_prefix_encode h₁.inRange h₂.inRange (h ▸ List.prefix_refl _)]
    · intro h i hne
      by_cases hi : i < m₁.kind.bodyLength
      · exact .inr (zeroSignAt_of_plain_eq h hi hne)
      · refine .inl ⟨Nat.not_lt.mp hi, ?_⟩
        by_contra hend
        have hlen : m₁.wireLength = m₂.wireLength :=
          congrArg Kind.wireLength (kind_eq_of_plain_eq h)
        apply hne
        rw [List.getElem?_eq_none (by rw [length_encode]; omega),
          List.getElem?_eq_none (by rw [length_encode]; omega)]

/-- A negative zero, sent and received, equals a positive one, though the sign and the checksum
differ on the wire. -/
theorem same_iff_frames_agree_negative_zero :
    let m₁ := (fresh .upPlop).run [.put "decimal" (.float ⟨0x80000000⟩)]
    let m₂ := fresh .upPlop
    m₁.Reachable ∧ m₂.Reachable ∧ m₁.encode[4]? = some 0x80 ∧ m₂.encode[4]? = some 0 ∧
      m₁.same m₂ = true ∧ m₁.kind.plainWindows (m₁.encode.take m₁.kind.bodyLength) =
        m₂.kind.plainWindows (m₂.encode.take m₂.kind.bodyLength) := by
  intro m₁ m₂
  have h₁ : m₁.Reachable := ⟨_, _, rfl⟩
  have h₂ : m₂.Reachable := ⟨.upPlop, [], rfl⟩
  have hsame : m₁.same m₂ = true := by decide
  exact ⟨h₁, h₂, by decide, by decide, hsame,
    ((same_iff_frames_agree.2 m₁ m₂ h₁ h₂).1.mp hsame).2⟩

end Message

end Fieldbus
