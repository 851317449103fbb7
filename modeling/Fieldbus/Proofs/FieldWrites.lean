import Fieldbus.Proofs.Assignments
import Fieldbus.Proofs.CursorPacking

/-!
# A write stays in its window

A field is written by a value or by typed input. Either way the outcome is decided by the field and
the input alone: a write that succeeds on one message of a kind succeeds on every other, and leaves
the same cell whatever was there before. On the wire that cell is written over the window of the
field, so that the frame keeps every byte but those of the window and the checksum.
-/

namespace Fieldbus

namespace Cursor

lemma overwrite_append_left (front buffer bytes : List UInt8) (position : Nat) :
    overwrite (front ++ buffer) (front.length + position) bytes =
      front ++ overwrite buffer position bytes := by
  simp only [overwrite, Nat.add_assoc, List.take_length_add_append, List.drop_length_add_append,
    List.append_assoc]

lemma getElem?_overwrite_of_outside {buffer bytes : List UInt8} {position i : Nat}
    (hfits : position + bytes.length ≤ buffer.length)
    (h : i < position ∨ position + bytes.length ≤ i) :
    (overwrite buffer position bytes)[i]? = buffer[i]? := by
  have hfront : (buffer.take position).length = position := List.length_take_of_le (by omega)
  unfold overwrite
  rcases h with h | h
  · rw [List.append_assoc, List.getElem?_append_left (by omega), List.getElem?_take_of_lt h]
  · have hwritten : (buffer.take position ++ bytes).length = position + bytes.length := by
      rw [List.length_append, hfront]
    rw [List.getElem?_append_right (by omega), hwritten, List.getElem?_drop,
      Nat.add_sub_cancel' h]

end Cursor

/-- Storing a cell writes its image over the window of the field. -/
lemma Record.encode_set {fields : List Field} (record : Record fields) (slot : Slot fields)
    (cell : slot.field.type.Cell) :
    (record.set slot cell).encode =
      Cursor.overwrite record.encode slot.offset (slot.field.type.encode cell) := by
  induction slot with
  | @here field fields =>
    cases record with
    | cons head cells =>
      have hdrop : (field.type.encode head ++ cells.encode).drop
          (0 + (field.type.encode cell).length) = cells.encode := by
        have hlen : (field.type.encode cell).length = field.type.width :=
          field.type.length_encode cell
        rw [hlen, Nat.zero_add, List.drop_left' (field.type.length_encode head)]
      exact congrArg (field.type.encode cell ++ ·) hdrop.symm
  | @there field fields slot ih =>
    cases record with
    | cons head cells =>
      -- The window lies behind the image of the first field, which is copied.
      have hlen := field.type.length_encode head
      change field.type.encode head ++ (cells.set slot cell).encode =
        Cursor.overwrite (field.type.encode head ++ cells.encode) (field.type.width + slot.offset) _
      rw [ih cells cell, ← hlen, Cursor.overwrite_append_left]
      rfl

/-- The positions of a frame that depend on the field at a slot: its window, and the checksum. -/
def Slot.Reaches {kind : Kind} (slot : Slot kind.fields) (i : Nat) : Prop :=
  slot.start ≤ i ∧ i < slot.start + slot.field.type.width ∨
    kind.bodyLength ≤ i ∧ i < kind.wireLength

namespace Message

lemma body_set (message : Message) (slot : Slot message.kind.fields) (cell : slot.field.type.Cell) :
    body ⟨message.kind, message.record.set slot cell⟩ =
      Cursor.overwrite message.body slot.start (slot.field.type.encode cell) := by
  change [message.id] ++ (message.record.set slot cell).encode =
    Cursor.overwrite ([message.id] ++ message.record.encode) ([message.id].length + slot.offset) _
  rw [Record.encode_set, Cursor.overwrite_append_left]

lemma getElem?_encode_set {message : Message} {slot : Slot message.kind.fields} {i : Nat}
    (h : ¬slot.Reaches i) (cell : slot.field.type.Cell) :
    (encode ⟨message.kind, message.record.set slot cell⟩)[i]? = message.encode[i]? := by
  have hbody := message.length_body
  have hbody' := length_body ⟨message.kind, message.record.set slot cell⟩
  obtain ⟨hwindow, hsum⟩ := not_or.mp h
  by_cases hi : i < message.kind.bodyLength
  · have hfits := slot.offset_add_width_le
    have hend := message.kind.bodyLength_eq
    have hstart : slot.start = 1 + slot.offset := rfl
    have hlen := slot.field.type.length_encode cell
    rw [encode, encode, List.getElem?_append_left (by rwa [hbody']),
      List.getElem?_append_left (by rwa [hbody]), body_set]
    apply Cursor.getElem?_overwrite_of_outside <;> omega
  · have hlen := message.length_encode
    have hlen' := length_encode ⟨message.kind, message.record.set slot cell⟩
    have hend : message.kind.wireLength ≤ i := by omega
    rw [List.getElem?_eq_none (by rwa [hlen']), List.getElem?_eq_none (by rwa [hlen])]

/-- A message after a cell was put at a slot: every other field is as before, the window holds the
image of the new cell, and no byte differs but those that depend on the field. -/
def WrittenAt (message : Message) (slot : Slot message.kind.fields) (cell : slot.field.type.Cell)
    (next : Message) : Prop :=
  ∃ record : Record message.kind.fields, next = ⟨message.kind, record⟩ ∧
    record.get slot = cell ∧
    (∀ other, other ≠ slot → record.get other = message.record.get other) ∧
    slot.window next.encode = slot.field.type.encode cell ∧
    ∀ i, ¬slot.Reaches i → next.encode[i]? = message.encode[i]?

lemma writtenAt_put (message : Message) (slot : Slot message.kind.fields)
    (input : slot.field.type.Input) :
    message.WrittenAt slot (slot.field.type.store input)
      ⟨message.kind, message.record.put slot input⟩ := by
  have hget : (message.record.put slot input).get slot = slot.field.type.store input :=
    Record.get_set _ _ _
  refine ⟨_, rfl, hget, ?_, ?_, ?_⟩
  · intro other hother
    exact Record.get_set_of_ne _ hother _
  · have hwindow := window_encode ⟨message.kind, message.record.put slot input⟩ slot
    rw [hwindow, hget]
  · intro i hi
    exact getElem?_encode_set hi _

/-- A field written by a value or by typed input changes its own cell, to one that does not depend
on the message, and nothing else but the window of the field and the checksum. -/
theorem write_stays_in_window (message : Message) (slot : Slot message.kind.fields) :
    (∀ value next, message.setField slot.field.name value = .ok next →
      ∃ cell, message.WrittenAt slot cell next ∧
        ∀ held : Record message.kind.fields, ∃ after,
          setField ⟨message.kind, held⟩ slot.field.name value = .ok after ∧
          WrittenAt ⟨message.kind, held⟩ slot cell after) ∧
    (∀ datum next cut, message.put? slot.field.name datum = some (next, cut) →
      ∃ cell, message.WrittenAt slot cell next ∧
        ∀ held : Record message.kind.fields, ∃ after,
          put? ⟨message.kind, held⟩ slot.field.name datum = some (after, cut) ∧
          WrittenAt ⟨message.kind, held⟩ slot cell after) := by
  constructor
  · intro value next h
    rw [setField_name] at h
    cases haccept : slot.field.type.accept slot.field.name value with
    | error fault => simp [haccept, Except.map] at h
    | ok input =>
      rw [haccept] at h
      obtain rfl := Except.ok.inj h
      -- The cell is made from the input alone, so it is the same over any other record.
      refine ⟨slot.field.type.store input, writtenAt_put message slot input, ?_⟩
      intro held
      refine ⟨_, ?_, writtenAt_put ⟨message.kind, held⟩ slot input⟩
      rw [setField_name ⟨message.kind, held⟩ slot, haccept]
      rfl
  · intro datum next cut h
    rw [put?_name] at h
    obtain ⟨input, hinput, hnext⟩ := Option.map_eq_some_iff.mp h
    obtain ⟨rfl, rfl⟩ := Prod.mk.inj hnext
    refine ⟨slot.field.type.store input, writtenAt_put message slot input, ?_⟩
    intro held
    refine ⟨_, ?_, writtenAt_put ⟨message.kind, held⟩ slot input⟩
    rw [put?_name ⟨message.kind, held⟩ slot, hinput]
    rfl

/-- A short name over a longer one, beside a negative zero: nothing of the old name remains. -/
theorem write_stays_in_window_shorter_name :
    let message := (fresh .upPlop).run [.put "decimal" (.float ⟨0x80000000⟩),
      .put "name" (.bytes [98, 111, 110, 106, 111, 117, 114])]
    let slot : Slot message.kind.fields := .there (.there .here)
    ∃ next, message.setField "name" (.chars "ab") = .ok next ∧
      message.body = [2, 0, 0, 0, 0x80, 0, 0, 98, 111, 110, 106, 111, 117, 114, 0, 0, 0, 0, 0] ∧
      next.body = [2, 0, 0, 0, 0x80, 0, 0, 97, 98, 0, 0, 0, 0, 0, 0, 0, 0, 0, 0] ∧
      ∃ cell, message.WrittenAt slot cell next ∧
        ∀ held : Record message.kind.fields, ∃ after,
          setField ⟨message.kind, held⟩ "name" (.chars "ab") = .ok after ∧
          WrittenAt ⟨message.kind, held⟩ slot cell after := by
  intro message slot
  have hset : message.setField "name" (.chars "ab") =
      .ok ⟨message.kind, message.record.put slot [97, 98]⟩ := rfl
  exact ⟨_, hset, by decide, by decide, (write_stays_in_window message slot).1 _ _ hset⟩

end Message

end Fieldbus
