import Fieldbus.Proofs.Assignments
import Fieldbus.Proofs.DecimalTexts
import Fieldbus.Proofs.FrameRoundTrip
import Fieldbus.Proofs.Utf8Text

/-!
# A message can be typed in again

An operator who sees the fields of a message types them as assignments, in any order: numbers as
they are shown, strings as they are. That builds the same message, bit for bit, and nothing had to
be adjusted. A number is read from its own text and lies in its range already; a string fits its
field already; and the fields do not disturb each other.
-/

namespace Fieldbus

namespace FixedString

variable {capacity : Nat}

lemma ofBytes_content {s : FixedString capacity} (h : s.Terminated) :
    ofBytes capacity s.content = s := by
  have hkept : kept capacity s.content = kept capacity s.raw := by
    rw [kept, kept, content, upToNul_eq_self (not_mem_upToNul s.raw)]
  calc ofBytes capacity s.content
    _ = ofBytes capacity s.raw := by
      apply eq_of_raw_eq
      change kept capacity s.content ++ List.replicate _ 0 = kept capacity s.raw ++ _
      rw [hkept]
    _ = s := ofBytes_raw h

lemma lossy_of_encode {s : FixedString capacity} {text : String}
    (h : Utf8.encode text.toList = s.content) : s.lossy = text := by
  rw [lossy, ← h, Utf8.decodeLossy_encode, String.ofList_toList]

end FixedString

namespace FieldType

/-- The text for a stored field: a number as it is shown, or the content of a string, whose UTF-8 it
is. A string that is not UTF-8 has no such text. -/
def Typed : (type : FieldType) → type.Cell → String → Prop
  | .chars _, s, text => Utf8.encode text.toList = FixedString.content s
  | type, cell, text => text = (type.value cell).display

instance (type : FieldType) (cell : type.Cell) (text : String) : Decidable (type.Typed cell text) :=
  match type, cell with
  | .chars _, s => inferInstanceAs (Decidable (Utf8.encode text.toList = FixedString.content s))
  | .int8 range, v => inferInstanceAs (Decidable (text = (value (.int8 range) v).display))
  | .int16 range, v => inferInstanceAs (Decidable (text = (value (.int16 range) v).display))
  | .uint8 range, v => inferInstanceAs (Decidable (text = (value (.uint8 range) v).display))
  | .float32 range, x => inferInstanceAs (Decidable (text = (value (.float32 range) x).display))

lemma parse_decimal {type : FieldType} (hshape : type.shape = .integer) {n : Int}
    (hlo : -9223372036854775808 ≤ n) (hhi : n ≤ 9223372036854775807) :
    type.parse (Text.decimal n) = .ok (.int n) := by
  have hread : Text.readInt64 (Text.trim (Text.decimal n).toList) = .ok n := by
    rw [Text.decimal, String.toList_ofList, Text.trim_writeInteger]
    exact Text.readInteger_writeInteger (by decide) (by decide) hlo hhi
  cases type with
  | float32 range => nomatch hshape
  | chars capacity => nomatch hshape
  | _ =>
    unfold parse
    dsimp only
    rw [hread]

lemma store_of_typed {type : FieldType} {cell : type.Cell} (h : type.InRange cell) {text : String}
    (htext : type.Typed cell text) :
    ∃ requested input, type.parse text = .ok requested ∧
      (∀ name, type.accept name requested = .ok input) ∧ type.store input = cell ∧
      (type.value cell).same requested = true := by
  cases type with
  | int8 range =>
    obtain rfl := htext
    have hlo := Int8.le_toInt cell
    have hhi := Int8.toInt_lt cell
    exact ⟨.int (Int8.toInt cell), Int8.toInt cell, parse_decimal rfl (by omega) (by omega),
      fun _ => rfl, Bounds.applyWide_toInt h, decide_eq_true rfl⟩
  | int16 range =>
    obtain rfl := htext
    have hlo := Int16.le_toInt cell
    have hhi := Int16.toInt_lt cell
    exact ⟨.int (Int16.toInt cell), Int16.toInt cell, parse_decimal rfl (by omega) (by omega),
      fun _ => rfl, Bounds.applyWide_toInt h, decide_eq_true rfl⟩
  | uint8 range =>
    obtain rfl := htext
    have hhi := UInt8.toNat_lt cell
    exact ⟨.int (UInt8.toNat cell), (UInt8.toNat cell : Int),
      parse_decimal rfl (by omega) (by omega), fun _ => rfl, Bounds.applyWide_toInt h,
      decide_eq_true rfl⟩
  | float32 range =>
    obtain ⟨hrange, hfinite⟩ := h
    obtain rfl := htext
    have hnan : Binary32.isNaN cell = false := (Bounds.contains_iff.mp hrange).1.2.1
    refine ⟨.float cell, cell, ?_, fun _ => rfl, Bounds.apply_eq_self hrange, ?_⟩
    · unfold parse
      dsimp only [value, FieldValue.display]
      rw [String.toList_ofList, Text.trim_text, Binary32.read_text _ hfinite]
    · simp [value, FieldValue.same, Binary32.same, hnan]
  | chars capacity =>
    refine ⟨.chars text, Utf8.encode text.toList, rfl, fun _ => rfl, ?_, ?_⟩
    · change FixedString.ofBytes capacity (Utf8.encode text.toList) = cell
      rw [show Utf8.encode text.toList = FixedString.content cell from htext,
        FixedString.ofBytes_content h]
    · simp [value, FieldValue.same, FixedString.lossy_of_encode htext]

end FieldType

lemma Kind.plain_names (kind : Kind) (slot : Slot kind.fields) :
    slot.field.name.toList ≠ [] ∧
      ∀ c ∈ slot.field.name.toList, c ≠ '=' ∧ Text.isBlank c = false := by
  have hall : (kind.fields.map Field.name).all (fun name => name.toList ≠ [] ∧
      name.toList.all (fun c => c ≠ '=' ∧ Text.isBlank c = false)) = true := by
    cases kind <;> decide
  obtain ⟨hne, hchars⟩ := of_decide_eq_true (List.all_eq_true.mp hall _ slot.name_mem)
  exact ⟨hne, fun c hc => of_decide_eq_true (List.all_eq_true.mp hchars c hc)⟩

lemma Assignment.parse?_append {name : String} (hne : name.toList ≠ [])
    (hchars : ∀ c ∈ name.toList, c ≠ '=' ∧ Text.isBlank c = false) (value : String) :
    parse? (name ++ "=" ++ value) = some ⟨name, value⟩ := by
  have hraw : (name ++ "=" ++ value).toList = name.toList ++ '=' :: value.toList := by
    simp
  have hpos : ∀ c ∈ name.toList, decide (c ≠ '=') = true := fun c hc =>
    decide_eq_true (hchars c hc).1
  have htake : (name.toList ++ '=' :: value.toList).takeWhile (· ≠ '=') = name.toList := by
    rw [List.takeWhile_append_of_pos hpos, List.takeWhile_cons_of_neg (by simp), List.append_nil]
  have hdrop : (name.toList ++ '=' :: value.toList).dropWhile (· ≠ '=') = '=' :: value.toList := by
    rw [List.dropWhile_append_of_pos hpos, List.dropWhile_cons_of_neg (by simp)]
  have htrim : Text.trim name.toList = name.toList :=
    Text.trim_eq_self fun c hc => (hchars c hc).2
  unfold parse?
  rw [hraw, htake, hdrop, htrim]
  simp [hne]

namespace Message

variable {kind : Kind} {target : Record kind.fields} {value : Slot kind.fields → String}

lemma mapM_parse?_typed (value : Slot kind.fields → String) (order : List (Slot kind.fields)) :
    (order.map fun slot => slot.field.name ++ "=" ++ value slot).mapM Assignment.parse? =
      some (order.map fun slot => Assignment.mk slot.field.name (value slot)) := by
  induction order with
  | nil => rfl
  | cons slot order ih =>
    obtain ⟨hne, hchars⟩ := kind.plain_names slot
    rw [List.map_cons, List.mapM_cons, Assignment.parse?_append hne hchars, ih]
    rfl

/-- Typing the fields of a message one after the other, whatever was there before, brings the
message closer field by field and reports nothing. -/
lemma applyAll_typed (htarget : target.InRange)
    (hvalue : ∀ slot : Slot kind.fields,
      slot.field.type.Typed (target.get slot) (value slot))
    (order : List (Slot kind.fields)) (record : Record kind.fields) :
    ∃ final : Record kind.fields,
      applyAll ⟨kind, record⟩ (order.map fun slot => Assignment.mk slot.field.name (value slot)) =
        (.ok ⟨kind, final⟩, []) ∧
      ∀ slot, slot ∈ order ∨ record.get slot = target.get slot →
        final.get slot = target.get slot := by
  refine ⟨_, ?_, fun slot => target.get_foldl_set order record⟩
  induction order generalizing record with
  | nil => rfl
  | cons slot order ih =>
    obtain ⟨requested, input, hparse, haccept, hstore, hsame⟩ :=
      FieldType.store_of_typed (htarget slot) (hvalue slot)
    have happly : apply ⟨kind, record⟩ ⟨slot.field.name, value slot⟩ =
        .ok (⟨kind, record.set slot (target.get slot)⟩, none) := by
      rw [apply_eq_ok (Slot.find?_name kind.nodup_names slot) hparse (haccept _), reportAt, hstore,
        if_pos hsame, Record.put, hstore]
    rw [List.map_cons, applyAll, happly]
    dsimp only
    rw [ih]
    rfl

/-- The fields of a reachable message whose strings are UTF-8, typed in any order, are all accepted
as assignments; they build the very same message, and nothing is reported. -/
theorem build_of_typed_fields {message : Message} (h : message.Reachable)
    {value : Slot message.kind.fields → String}
    (hvalue : ∀ slot : Slot message.kind.fields,
      slot.field.type.Typed (message.record.get slot) (value slot))
    {order : List (Slot message.kind.fields)} (horder : order.Perm (Slot.all message.kind.fields)) :
    ∃ assignments,
      (order.map fun slot => slot.field.name ++ "=" ++ value slot).mapM Assignment.parse? =
        some assignments ∧
      build message.kind assignments = (.ok message, []) := by
  refine ⟨_, mapM_parse?_typed value order, ?_⟩
  obtain ⟨final, hfinal, hget⟩ :=
    applyAll_typed h.inRange hvalue order (Record.zero message.kind.fields)
  have hall : final = message.record := by
    apply Record.ext_get
    intro slot
    exact hget slot (.inl (horder.mem_iff.mpr slot.mem_all))
  rw [build, fresh, hfinal, hall]

/-- A negative zero, a fraction, and a string of blanks, marks and line ends, typed from the last
field to the first. -/
theorem build_of_typed_fields_quotes :
    let message := (fresh .downToto).run [.put "decimal" (.float ⟨0x80000000⟩),
      .put "entier" (.int (-7)), .put "name" (.bytes (Utf8.encode " =\"'\t\r\né ".toList)),
      .put "vx" (.float ⟨0x3DCCCCCD⟩)]
    message.Reachable ∧ message.body = [0, 0, 0, 0, 0x80, 0xF9, 0xFF, 0x20, 0x3D, 0x22, 0x27, 9, 13,
      10, 0xC3, 0xA9, 0x20, 0, 0, 0xCD, 0xCC, 0xCC, 0x3D] ∧
      ∃ assignments,
        ["vx=0.1", "name= =\"'\t\r\né ", "entier=-7", "decimal=-0"].mapM Assignment.parse? =
          some assignments ∧
        build .downToto assignments = (.ok message, []) := by
  intro message
  have hmessage : message.Reachable := ⟨_, _, rfl⟩
  refine ⟨hmessage, by decide, ?_⟩
  let value (slot : Slot message.kind.fields) : String :=
    ["-0", "-7", " =\"'\t\r\né ", "0.1"].getD slot.index ""
  have hvalue : ∀ slot ∈ Slot.all message.kind.fields,
      slot.field.type.Typed (message.record.get slot) (value slot) := by decide
  exact build_of_typed_fields hmessage (fun slot => hvalue slot slot.mem_all) (List.reverse_perm _)

end Message

end Fieldbus
