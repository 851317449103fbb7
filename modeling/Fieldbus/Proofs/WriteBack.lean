import Fieldbus.Proofs.Adjustments
import Fieldbus.Proofs.NamedAccess
import Fieldbus.Proofs.TypedFields
import Fieldbus.Proofs.Utf8Validity

/-!
# Writing back what was read

A message is listed and every value of the list is written back to its field. Numbers and strings of
UTF-8 stay as they are. Any other string is read with replacement characters, which may take up more
bytes than it had, and is cut again, perhaps through one of them. The text that is read after the
first time is read again after the second, so that a third time changes nothing.
-/

namespace Fieldbus

namespace FixedString

variable {capacity : Nat}

/-- The string after the text that is read from it was written to it. -/
def again (s : FixedString capacity) : FixedString capacity :=
  ofBytes capacity (Utf8.encode s.lossy.toList)

lemma again_of_text {s : FixedString capacity} (hs : s.Terminated) (h : s.text?.isSome = true) :
    s.again = s := by
  rw [text?, Option.isSome_map] at h
  obtain ⟨text, htext⟩ := Option.isSome_iff_exists.mp h
  have hencode : Utf8.encode (String.ofList text).toList = s.content := by
    rw [String.toList_ofList, Utf8.decode?_eq_some_iff.mp htext]
  rw [again, lossy_of_encode hencode, hencode, ofBytes_content hs]

lemma kept_encode {text : List Char} (hnul : '\x00' ∉ text)
    (hlen : (Utf8.encode text).length ≤ capacity - 1) :
    kept capacity (Utf8.encode text) = Utf8.encode text := by
  rw [kept, upToNul_eq_self (mt Utf8.zero_mem_encode.mp hnul), List.take_of_length_le hlen]

/-- The text that is read from a string to which text was written is read again once it is written
itself: it fits, or it ends in a replacement character for what was cut and is cut there again. -/
lemma lossy_again_ofBytes (capacity : Nat) (text : String) :
    (ofBytes capacity (Utf8.encode text.toList)).again.lossy =
      (ofBytes capacity (Utf8.encode text.toList)).lossy := by
  have hread := lossy_ofBytes_encode capacity text
  have hsource : '\x00' ∉ text.toList.takeWhile (· ≠ '\x00') := by
    intro h
    simpa using List.mem_takeWhile_imp h
  dsimp only at hread
  generalize ofBytes capacity (Utf8.encode text.toList) = s at hread ⊢
  generalize text.toList.takeWhile (· ≠ '\x00') = source at hread hsource
  obtain ⟨hstart, hfits, -⟩ := Utf8.longestFit_fitting (capacity - 1) source
  generalize Utf8.fitting (capacity - 1) source = start at hread hstart hfits
  suffices h : Utf8.decodeLossy (kept capacity (Utf8.encode s.lossy.toList)) = s.lossy.toList by
    rw [again, lossy, content_ofBytes, h, String.ofList_toList]
  have hstart' : '\x00' ∉ start := fun h => hsource (hstart.subset h)
  rw [decodeLossy_kept_iff, hread, String.toList_ofList]
  split_ifs with hwhole hfull
  · exact .inl (kept_encode hsource hwhole)
  · exact .inl (kept_encode hstart' hfits)
  · have hlen : (Utf8.encode (start ++ ['\ufffd'])).length = (Utf8.encode start).length + 3 := by
      have hsize : ('\ufffd').utf8Size = 3 := by decide
      simp [Utf8.encode, hsize]
    have hnul : '\x00' ∉ start ++ ['\ufffd'] := by simp [hstart']
    by_cases hroom : (Utf8.encode start).length + 3 ≤ capacity - 1
    · exact .inl (kept_encode hnul (by omega))
    · exact .inr ⟨hnul, start, rfl, by omega, by omega⟩

lemma again_again_again (s : FixedString capacity) : s.again.again.again = s.again.again := by
  have hread : s.again.again.lossy = s.again.lossy := lossy_again_ofBytes capacity s.lossy
  rw [again, hread]
  rfl

end FixedString

namespace FieldType

def reread : (type : FieldType) → type.Cell → type.Input
  | .int8 _, v => Int8.toInt v
  | .int16 _, v => Int16.toInt v
  | .uint8 _, v => (UInt8.toNat v : Int)
  | .float32 _, x => x
  | .chars _, s => Utf8.encode (FixedString.lossy s).toList

def again (type : FieldType) (cell : type.Cell) : type.Cell := type.store (type.reread cell)

/-- A stored field whose value shows all there is: a number, or a string of UTF-8. -/
def IsText : (type : FieldType) → type.Cell → Prop
  | .chars _, s => (FixedString.text? s).isSome = true
  | _, _ => True

lemma accept_value (type : FieldType) (name : String) (cell : type.Cell) :
    type.accept name (type.value cell) = .ok (type.reread cell) := by
  cases type <;> rfl

variable {type : FieldType} {cell : type.Cell}

lemma again_of_isText (h : type.InRange cell) (htext : type.IsText cell) :
    type.again cell = cell := by
  cases type with
  | chars capacity => exact FixedString.again_of_text h htext
  | _ => exact store_input h

lemma isText_of_shape (h : type.shape ≠ .string) : type.IsText cell := by
  cases type with
  | chars capacity => exact absurd rfl h
  | _ => trivial

lemma again_again_again (h : type.InRange cell) :
    type.again (type.again (type.again cell)) = type.again (type.again cell) := by
  by_cases hshape : type.shape = .string
  · cases type with
    | chars capacity => exact FixedString.again_again_again cell
    | _ => nomatch hshape
  · have hsame := again_of_isText h (isText_of_shape hshape)
    simp only [hsame]

end FieldType

namespace Record

def again : {fields : List Field} → Record fields → Record fields
  | [], .nil => .nil
  | field :: _, .cons cell cells => .cons (field.type.again cell) cells.again

lemma get_again {fields : List Field} (record : Record fields) (slot : Slot fields) :
    record.again.get slot = slot.field.type.again (record.get slot) := by
  induction slot with
  | here => cases record; rfl
  | there slot ih => cases record; exact ih _

end Record

namespace Message

/-- Writes every value that is listed back to its field, one after the other. -/
def writeBack (message : Message) : Except FieldError Message :=
  message.fields.foldlM (fun held pair => held.setField pair.1 pair.2) message

lemma foldlM_setField {kind : Kind} (source : Record kind.fields) (order : List (Slot kind.fields))
    (record : Record kind.fields) :
    (order.map fun slot => (slot.field.name, source.valueAt slot)).foldlM
      (fun held pair => held.setField pair.1 pair.2) (⟨kind, record⟩ : Message) = .ok
        ⟨kind, order.foldl (fun held slot => held.set slot (source.again.get slot)) record⟩ := by
  induction order generalizing record with
  | nil => rfl
  | cons slot order ih =>
    have hset : setField ⟨kind, record⟩ slot.field.name (source.valueAt slot) =
        .ok ⟨kind, record.set slot (source.again.get slot)⟩ := by
      rw [setField_name ⟨kind, record⟩ slot, Record.valueAt, FieldType.accept_value,
        Record.get_again]
      rfl
    rw [List.map_cons, List.foldlM_cons, hset]
    exact ih _

lemma writeBack_eq (message : Message) :
    message.writeBack = .ok ⟨message.kind, message.record.again⟩ := by
  rw [writeBack, fields, Record.values_eq]
  exact (foldlM_setField message.record _ message.record).trans (by rw [Record.foldl_set_all])

/-- Every value that is read from a reachable message can be written back. That changes no number,
and nothing at all if the strings are UTF-8; and whatever the strings hold, writing back a third
time changes nothing any more. -/
theorem writeBack_settles {message : Message} (h : message.Reachable) :
    ∃ once twice : Record message.kind.fields,
      message.writeBack = .ok ⟨message.kind, once⟩ ∧
      writeBack ⟨message.kind, once⟩ = .ok ⟨message.kind, twice⟩ ∧
      writeBack ⟨message.kind, twice⟩ = .ok ⟨message.kind, twice⟩ ∧
      (∀ slot : Slot message.kind.fields, slot.field.type.shape ≠ .string →
        once.get slot = message.record.get slot ∧ twice.get slot = message.record.get slot) ∧
      ((∀ slot : Slot message.kind.fields, slot.field.type.IsText (message.record.get slot)) →
        once = message.record) := by
  have hsame (slot : Slot message.kind.fields)
      (hslot : slot.field.type.IsText (message.record.get slot)) :
      message.record.again.get slot = message.record.get slot := by
    rw [Record.get_again, FieldType.again_of_isText (h.inRange slot) hslot]
  have hthird : message.record.again.again.again = message.record.again.again := by
    apply Record.ext_get
    intro slot
    simp only [Record.get_again, FieldType.again_again_again (h.inRange slot)]
  refine ⟨_, _, message.writeBack_eq, writeBack_eq _, ?_, ?_, ?_⟩
  · rw [writeBack_eq, hthird]
  · intro slot hshape
    have hslot := hsame slot (FieldType.isText_of_shape hshape)
    refine ⟨hslot, ?_⟩
    rw [Record.get_again, hslot, ← Record.get_again, hslot]
  · intro htext
    exact Record.ext_get fun slot => hsame slot (htext slot)

/-- Two stray bytes and a character of four are written back as two replacement characters and three
bytes of the character, and then as three replacement characters. A text that fills the field stays
as it is. -/
theorem writeBack_settles_stray_bytes :
    let stray := (fresh .interMcuProut).run
      [.put "odeur" (.bytes [0xFF, 0xFF, 0xF0, 0x9F, 0x98, 0x80])]
    let plain := (fresh .interMcuProut).run [.put "odeur" (.bytes (Utf8.encode "fumé €".toList))]
    stray.Reachable ∧ plain.Reachable ∧
      (stray.writeBack.toOption.map body =
        some [1, 0xEF, 0xBF, 0xBD, 0xEF, 0xBF, 0xBD, 0xF0, 0x9F, 0x98, 0]) ∧
      (∃ once twice, stray.writeBack = .ok once ∧ writeBack once = .ok twice ∧
        writeBack twice = .ok twice ∧
        twice.body = [1, 0xEF, 0xBF, 0xBD, 0xEF, 0xBF, 0xBD, 0xEF, 0xBF, 0xBD, 0]) ∧
      plain.writeBack = .ok plain := by
  intro stray plain
  have hstray : stray.Reachable := ⟨_, _, rfl⟩
  have hplain : plain.Reachable := ⟨_, _, rfl⟩
  have htext : ∀ slot : Slot plain.kind.fields, slot.field.type.IsText (plain.record.get slot) :=
    Slot.forall_cons (show (FixedString.text? _).isSome = true by decide) Slot.forall_nil
  obtain ⟨once, twice, honce, htwice, hthird, -⟩ := writeBack_settles hstray
  obtain ⟨same, -, hsame, -, -, -, heq⟩ := writeBack_settles hplain
  refine ⟨hstray, hplain, by decide, ⟨_, _, honce, htwice, hthird, ?_⟩, ?_⟩
  · have hbody : (stray.writeBack.toOption.bind fun once => (writeBack once).toOption).map body =
        some [1, 0xEF, 0xBF, 0xBD, 0xEF, 0xBF, 0xBD, 0xEF, 0xBF, 0xBD, 0] := by decide
    rw [honce] at hbody
    change (writeBack ⟨stray.kind, once⟩).toOption.map body = _ at hbody
    rw [htwice] at hbody
    exact Option.some.inj hbody
  · rw [hsame, heq htext]

end Message

end Fieldbus
