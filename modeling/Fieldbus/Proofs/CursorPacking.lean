import Fieldbus.Message.Packing
import Fieldbus.Proofs.CatalogListing
import Fieldbus.Proofs.ReceptionOrder
import Mathlib.Data.Option.Basic

/-!
# Cursors follow the layout

Writing two pieces through a cursor is writing them at once, and reading in pieces is reading at
once and cutting. The packers that spell out the fields of each kind are therefore one access of the
layout's whole length, which stays within the frame and ends where the checksum starts. So packing a
frame always succeeds and yields the frame of the layout, and unpacking never fails but by a check.
The places that the catalog command prints are those of the same layout. A frame that is packed over
the start of a longer buffer replaces all its bytes and no others.
-/

namespace Fieldbus

namespace Cursor

lemma length_overwrite {buffer bytes : List UInt8} {position : Nat}
    (h : position + bytes.length ≤ buffer.length) :
    (overwrite buffer position bytes).length = buffer.length := by
  simp only [overwrite, List.length_append, List.length_take, List.length_drop]
  omega

lemma overwrite_append {buffer xs : List UInt8} {position : Nat}
    (h : position + xs.length ≤ buffer.length) (ys : List UInt8) :
    overwrite (overwrite buffer position xs) (position + xs.length) ys =
      overwrite buffer position (xs ++ ys) := by
  have hfront : (buffer.take position ++ xs).length = position + xs.length := by
    rw [List.length_append, List.length_take]
    omega
  simp only [overwrite]
  rw [List.take_left' hfront, ← List.drop_drop, List.drop_left' hfront, List.drop_drop,
    List.length_append, Nat.add_assoc, List.append_assoc (buffer.take position)]

lemma run_put {cursor : Cursor} {bytes : List UInt8}
    (h : cursor.position + bytes.length ≤ cursor.buffer.length) :
    (put bytes).run cursor =
      some ((), ⟨overwrite cursor.buffer cursor.position bytes, cursor.position + bytes.length⟩) :=
  if_pos h

lemma run_put_eq_none {cursor : Cursor} {bytes : List UInt8}
    (h : ¬cursor.position + bytes.length ≤ cursor.buffer.length) :
    (put bytes).run cursor = none := if_neg h

lemma run_take {cursor : Cursor} {length : Nat}
    (h : cursor.position + length ≤ cursor.buffer.length) :
    (take length).run cursor = some ((cursor.buffer.drop cursor.position).take length,
      ⟨cursor.buffer, cursor.position + length⟩) := if_pos h

lemma put_append (xs ys : List UInt8) : (do put xs; put ys) = put (xs ++ ys) := by
  apply StateT.ext
  intro cursor
  rw [StateT.run_bind]
  by_cases hxs : cursor.position + xs.length ≤ cursor.buffer.length
  · rw [run_put hxs, Option.bind_eq_bind, Option.bind_some]
    have hlen := length_overwrite hxs
    by_cases hys : cursor.position + xs.length + ys.length ≤ cursor.buffer.length
    · rw [run_put (by rwa [hlen]), run_put (by rwa [List.length_append, ← Nat.add_assoc]),
        overwrite_append hxs, List.length_append, Nat.add_assoc]
    · rw [run_put_eq_none (by rwa [hlen]),
        run_put_eq_none (by rwa [List.length_append, ← Nat.add_assoc])]
  · rw [run_put_eq_none hxs, run_put_eq_none (by rw [List.length_append]; omega)]
    rfl

end Cursor

namespace Record

def unpack : (fields : List Field) → StateT Cursor Option (Record fields)
  | [] => return .nil
  | field :: fields => do
    let bytes ← Cursor.take field.type.width
    let cells ← unpack fields
    return .cons (field.type.store (field.type.decode bytes)) cells

lemma run_unpack {fields : List Field} {cursor : Cursor}
    (h : cursor.position + Field.payloadLength fields ≤ cursor.buffer.length) :
    (unpack fields).run cursor = some (decode fields (cursor.buffer.drop cursor.position),
      ⟨cursor.buffer, cursor.position + Field.payloadLength fields⟩) := by
  induction fields generalizing cursor with
  | nil => rfl
  | cons field fields ih =>
    rw [Field.payloadLength_cons, ← Nat.add_assoc] at h ⊢
    have htake : (Cursor.take field.type.width).run cursor =
        some ((cursor.buffer.drop cursor.position).take field.type.width,
          ⟨cursor.buffer, cursor.position + field.type.width⟩) := Cursor.run_take (by omega)
    rw [unpack, StateT.run_bind, htake, Option.bind_eq_bind, Option.bind_some, StateT.run_bind,
      ih h, decode, List.drop_drop]
    rfl

end Record

namespace Kind

lemma pack_eq (kind : Kind) (record : Record kind.fields) :
    kind.pack record = Cursor.put record.encode := by
  cases kind with
  | downToto =>
    match record with
    | .cons _ (.cons _ (.cons _ (.cons _ .nil))) =>
      change (do Cursor.put _; Cursor.put _; Cursor.put _; Cursor.put _) =
        Cursor.put (_ ++ (_ ++ (_ ++ (_ ++ []))))
      simp only [Cursor.put_append, List.append_nil]
      rfl
  | interMcuProut =>
    match record with
    | .cons _ .nil =>
      change Cursor.put _ = Cursor.put (_ ++ [])
      rw [List.append_nil]
      rfl
  | upPlop =>
    match record with
    | .cons _ (.cons _ (.cons _ .nil)) =>
      change (do Cursor.put _; Cursor.put _; Cursor.put _) = Cursor.put (_ ++ (_ ++ (_ ++ [])))
      simp only [Cursor.put_append, List.append_nil]
      rfl
  | upSpeedReport =>
    match record with
    | .cons _ (.cons _ (.cons _ .nil)) =>
      change (do Cursor.put _; Cursor.put _; Cursor.put _) = Cursor.put (_ ++ (_ ++ (_ ++ [])))
      simp only [Cursor.put_append, List.append_nil]
      rfl

lemma unpack_eq (kind : Kind) : kind.unpack = Record.unpack kind.fields := by
  cases kind <;>
    simp only [unpack, Record.unpack, fields, Cursor.takeFloat32, Cursor.takeInt16, Cursor.takeInt8,
      Cursor.takeUInt8, bind_assoc, pure_bind] <;>
    rfl

end Kind

lemma guard_bind {α : Type} {p : Prop} [Decidable p] (h : p) (next : Unit → Option α) :
    (guard p >>= next) = next () := by
  rw [guard, if_pos h]
  rfl

/-- Packing writes the frame of the message, whatever the buffer held. -/
lemma Message.writeFrame_eq (message : Message) {buffer : List UInt8}
    (h : buffer.length = message.wireLength) : message.writeFrame buffer = some message.encode := by
  obtain ⟨id, payload, low, high, rfl, hpayload⟩ := Kind.exists_parts_of_length h
  have hrecord : message.record.encode.length = payload.length := by
    rw [Record.length_encode, hpayload]
  have hend :
      (id :: payload ++ [low, high]).length - checksumLength = idLength + payload.length := by
    simp only [List.length_append, List.length_cons, List.length_nil, checksumLength, idLength]
    omega
  have hstart : ((id :: payload ++ [low, high]).set 0 message.id).take (idLength + payload.length) =
      message.id :: payload := by
    simp [idLength, Nat.add_comm]
  have hpack : (message.kind.pack message.record).run ⟨message.id :: payload, idLength⟩ =
      some ((), ⟨message.body, idLength + payload.length⟩) := by
    rw [Kind.pack_eq, Cursor.run_put (by simp [hrecord, idLength, Nat.add_comm])]
    simp [Cursor.overwrite, body, hrecord, idLength, Nat.add_comm]
  have hsum : (LittleEndian.encode16 (checksum message.body)).length =
      ((id :: payload ++ [low, high]).drop (idLength + payload.length)).length := by
    simp [LittleEndian.length_encode16, idLength, Nat.add_comm]
  unfold writeFrame
  dsimp only
  rw [guard_bind h, guard_bind (by simp), hend, hstart, hpack]
  exact (guard_bind rfl _).trans (guard_bind hsum _)

namespace Kind

variable {kind : Kind} {payload : List UInt8}

lemma run_unpack (hpayload : payload.length = Field.payloadLength kind.fields) (id : UInt8) :
    kind.unpack.run ⟨id :: payload, idLength⟩ =
      some (Record.decode kind.fields payload, ⟨id :: payload, (id :: payload).length⟩) := by
  have hstop : idLength + Field.payloadLength kind.fields = (id :: payload).length := by
    rw [List.length_cons, hpayload, Nat.add_comm]
    rfl
  rw [unpack_eq, Record.run_unpack (Nat.le_of_eq hstop), hstop]
  rfl

lemma readFrame_eq (kind : Kind) (buffer : List UInt8) :
    kind.readFrame buffer = some (kind.decode buffer) := by
  unfold readFrame
  obtain hlen | hlen := Nat.lt_or_ge buffer.length kind.wireLength
  · rw [if_pos hlen, decode_eq, if_pos hlen]
    rfl
  rw [if_neg (Nat.not_lt.mpr hlen), ← decode_take hlen]
  obtain ⟨id, payload, low, high, hframe, hpayload⟩ :=
    exists_parts_of_length (List.length_take_of_le hlen)
  have hend : kind.wireLength - checksumLength = (id :: payload).length := by
    change kind.bodyLength = _
    rw [bodyLength_eq, List.length_cons, hpayload, Nat.add_comm]
  have hlow : (id :: payload ++ [low, high])[(id :: payload).length]? = some low := by
    rw [List.getElem?_append_right (Nat.le_refl _), Nat.sub_self]
    rfl
  have hhigh : (id :: payload ++ [low, high])[(id :: payload).length + 1]? = some high := by
    rw [List.getElem?_append_right (Nat.le_add_right _ 1), Nat.add_sub_cancel_left]
    rfl
  dsimp only
  rw [hframe, hend, List.take_left, hlow, hhigh, run_unpack hpayload, decode_parts hpayload]
  by_cases hsum : LittleEndian.decode16 [low, high] = checksum (id :: payload)
  · by_cases hid : id = kind.id
    · simp [hsum, hid]
    · simp [hsum, hid]
  · simp [hsum]

end Kind

namespace Message

/-- A frame holds a message at the places of its layout: the id, then the image of every field in
its window, then the checksum of all bytes before. -/
structure LaidOut (message : Message) (frame : List UInt8) : Prop where
  length_eq : frame.length = Field.wireLength message.kind.fields
  head?_eq : frame.head? = some message.id
  isImage_window (slot : Slot message.kind.fields) :
    slot.field.type.IsImage (message.record.get slot) (slot.window frame)
  stored_checksum :
    LittleEndian.number (frame.drop (frame.length - 2)) =
      (checksum (frame.take (frame.length - 2))).toNat

/-- A message of a kind holds in every field what its window in a buffer stands for, stored like any
other input. -/
structure ReadFrom (kind : Kind) (buffer : List UInt8) (message : Message) : Prop where
  kind_eq : message.kind = kind
  get_eq (slot : Slot message.kind.fields) :
    ∃ input, slot.field.type.StandsFor (slot.window buffer) input ∧
      message.record.get slot = slot.field.type.store input

lemma laidOut_encode (message : Message) : message.LaidOut message.encode where
  length_eq := message.length_encode
  head?_eq := rfl
  isImage_window slot := by
    rw [window_encode]
    exact slot.field.type.isImage_encode _
  stored_checksum := by
    have hend : message.encode.length - 2 = message.body.length := by
      rw [encode, List.length_append, LittleEndian.length_encode16, Nat.add_sub_cancel]
    rw [hend, encode, List.drop_left, List.take_left, LittleEndian.number_encode16]

lemma readFrom_of_decode {kind : Kind} {buffer : List UInt8} {message : Message}
    (h : kind.decode buffer = .ok message) : ReadFrom kind buffer message := by
  obtain ⟨hlen, _, _, rfl⟩ := Kind.decode_eq_ok_iff.mp h
  have hbody : kind.bodyLength ≤ buffer.length := Nat.le_trans (Nat.sub_le _ _) hlen
  refine ⟨rfl, fun (slot : Slot kind.fields) =>
    ⟨slot.field.type.decode (slot.window buffer), ?_, ?_⟩⟩
  · exact FieldType.standsFor_decode (slot.length_window hbody)
  · have hget := kind.get_read slot (buffer.take kind.bodyLength)
    rw [slot.window_take (Nat.le_refl _)] at hget
    exact hget

end Message

/-- The frame of every message follows the layout of its kind, and packing it in place succeeds with
that frame; a receiver never leaves its buffer, and what it accepts it reads at the places of the
layout. The catalog command shows just these places: as text at the start of each field's line, and
as a document in a member of each field. -/
theorem frames_follow_layout :
    (∀ message : Message, message.LaidOut message.encode ∧
      ∀ buffer, buffer.length = message.wireLength →
        message.writeFrame buffer = some message.encode) ∧
    (∀ (kind : Kind) (buffer : List UInt8), kind.readFrame buffer = some (kind.decode buffer) ∧
      ∀ message, kind.decode buffer = .ok message → Message.ReadFrom kind buffer message) ∧
    ∀ (raw : Option String) (kinds : List Kind), Command.Lists raw kinds →
      ∀ (context : Context) (files : Files),
        ∃ output, ((Command.catalog raw).run context files).result = .ok output ∧
          (context.settings.format = .text →
            Text.lines output = [""].intercalate (kinds.map Kind.listing)) ∧
          (context.settings.format = .json →
            Text.lines output = Json.block "[" "]" (kinds.map Kind.document)) := by
  exact ⟨fun message => ⟨message.laidOut_encode, fun _ => message.writeFrame_eq⟩,
    fun kind buffer => ⟨kind.readFrame_eq buffer, fun _ => Message.readFrom_of_decode⟩,
    fun _ _ => Command.run_catalog⟩

/-- A negative speed is packed over old bytes, a report with a value out of range is read, and the
catalog shows where the speeds stand. -/
theorem frames_follow_layout_speed_report :
    let message := (Message.fresh .upSpeedReport).run [.put "vx" (.int (-2))]
    let catalog (format : OutputFormat) :=
      ((Command.catalog (some "3")).run ⟨⟨"info", format, false⟩, none⟩ (Files.inside [])).result
    (List.replicate 7 (0xAA : UInt8)).length = message.wireLength ∧
      message.writeFrame (List.replicate 7 0xAA) = some [3, 0, 254, 0, 0, 12, 2] ∧
      (∃ received, Kind.upSpeedReport.decode [3, 200, 0, 0, 0, 50, 203] = .ok received ∧
        Message.ReadFrom .upSpeedReport [3, 200, 0, 0, 0, 50, 203] received) ∧
      (∃ output, catalog .text = .ok output ∧ Text.lines output =
        ["UpSpeedReport (id 3, 7 bytes)", "  @1   vtheta  u8 [0, 10]",
          "  @2   vx      i8 [-128, 127]", "  @3   vy      i16 [-2, 10]"]) ∧
      ∃ output, catalog .json = .ok output ∧
        (Text.lines output)[9]? = some "        \x22offset\x22: 1," ∧
        (Text.lines output)[15]? = some "        \x22offset\x22: 2," ∧
        (Text.lines output)[21]? = some "        \x22offset\x22: 3," := by
  obtain ⟨hwrite, hread, hcatalog⟩ := frames_follow_layout
  have hkinds : Command.Lists (some "3") [.upSpeedReport] := .one rfl
  refine ⟨rfl, (hwrite _).2 _ rfl, ⟨Kind.upSpeedReport.read [3, 200, 0, 0, 0], rfl,
    (hread _ _).2 _ rfl⟩, ?_, ?_⟩
  · obtain ⟨output, hresult, htext, _⟩ :=
      hcatalog _ _ hkinds ⟨⟨"info", .text, false⟩, none⟩ (Files.inside [])
    exact ⟨output, hresult, (htext rfl).trans (by decide)⟩
  · obtain ⟨output, hresult, _, hjson⟩ :=
      hcatalog _ _ hkinds ⟨⟨"info", .json, false⟩, none⟩ (Files.inside [])
    refine ⟨output, hresult, ?_⟩
    rw [hjson rfl]
    decide

namespace Message

lemma newFrame_eq (message : Message) : message.newFrame = some message.encode :=
  message.writeFrame_eq List.length_replicate

lemma writeInto_eq (message : Message) (buffer : List UInt8) :
    message.writeInto buffer = some (message.serialize buffer) := by
  unfold writeInto serialize
  by_cases hlen : buffer.length < message.wireLength
  · rw [if_pos hlen, if_pos hlen]
    rfl
  · have htake : (buffer.take message.wireLength).length = message.wireLength :=
      List.length_take_of_le (Nat.not_lt.mp hlen)
    rw [if_neg hlen, if_neg hlen, message.writeFrame_eq htake]
    rfl

/-- A frame is written over the start of a buffer as a whole or not at all. A buffer that is too
short stays as it is; otherwise the frame is the one that is written over zero bytes, whatever the
buffer held, and all bytes after it stay. -/
theorem serialize_whole_or_nothing (message : Message) (buffer : List UInt8) :
    (message.newFrame = some message.encode ∧
      message.writeInto buffer = some (message.serialize buffer)) ∧
    (buffer.length < message.wireLength → message.writeInto buffer =
      some (.error (.insufficientBuffer message.wireLength buffer.length), buffer)) ∧
    (message.wireLength ≤ buffer.length → ∃ frame after, message.newFrame = some frame ∧
      message.writeInto buffer = some (.ok message.wireLength, after) ∧
      after.take message.wireLength = frame ∧
      after.drop message.wireLength = buffer.drop message.wireLength) := by
  have hinto := message.writeInto_eq buffer
  refine ⟨⟨message.newFrame_eq, hinto⟩, ?_, ?_⟩
  · intro hlen
    rw [hinto, serialize, if_pos hlen]
  · intro hlen
    refine ⟨message.encode, message.encode ++ buffer.drop message.wireLength, message.newFrame_eq,
      ?_, List.take_left' message.length_encode, List.drop_left' message.length_encode⟩
    rw [hinto, serialize, if_neg (Nat.not_lt.mpr hlen)]

theorem serialize_whole_or_nothing_old_bytes :
    let message := (fresh .upSpeedReport).run [.put "vx" (.int (-2))]
    message.wireLength ≤ (List.replicate 9 (0xAA : UInt8)).length ∧
      (message.serialize (List.replicate 9 0xAA)).2 = [3, 0, 254, 0, 0, 12, 2, 0xAA, 0xAA] ∧
      (∃ frame after, message.newFrame = some frame ∧
        message.writeInto (List.replicate 9 0xAA) = some (.ok message.wireLength, after) ∧
        after.take message.wireLength = frame ∧
        after.drop message.wireLength = (List.replicate 9 0xAA).drop message.wireLength) ∧
      message.writeInto (List.replicate 6 0xAA) =
        some (.error (.insufficientBuffer 7 6), List.replicate 6 0xAA) := by
  intro message
  refine ⟨by decide, by decide, ?_, ?_⟩
  · exact (serialize_whole_or_nothing message _).2.2 (by decide)
  · exact (serialize_whole_or_nothing message _).2.1 (by decide)

end Message

end Fieldbus
