import Fieldbus.Proofs.Clamping
import Fieldbus.Proofs.FrameChecks

/-!
# Every message a program can hold is in range

A program holds a message, writes its fields by typed input or by name, and replaces it by what it
receives. Whatever the inputs, and whether a write or a reception fails or not, every number stays
in the range that its layout declares and every string stays terminated and padded with zero bytes.
Each step either keeps the message, stores input at one place, or reads a whole frame; the invariant
is proved for these three and carried along a run by induction.
-/

namespace Fieldbus

namespace FixedString

variable {capacity : Nat}

/-- The bytes are a content without zero bytes, which leaves room for a terminator, and zero bytes
after it. -/
def Terminated (s : FixedString capacity) : Prop :=
  ∃ content : List UInt8, 0 ∉ content ∧ content.length < capacity ∧
    s.raw = content ++ List.replicate (capacity - content.length) 0

lemma not_mem_upToNul (bytes : List UInt8) : 0 ∉ upToNul bytes := by
  intro h
  have hall : (upToNul bytes).all (· ≠ 0) = true := List.all_takeWhile
  simpa using List.all_eq_true.mp hall 0 h

lemma not_mem_kept (capacity : Nat) (bytes : List UInt8) : 0 ∉ kept capacity bytes :=
  fun h => not_mem_upToNul bytes (List.mem_of_mem_take h)

lemma terminated_ofBytes (h : 0 < capacity) (bytes : List UInt8) :
    (ofBytes capacity bytes).Terminated := by
  refine ⟨kept capacity bytes, not_mem_kept capacity bytes, ?_, rfl⟩
  simp only [kept, List.length_take]
  omega

lemma terminated_empty (h : 0 < capacity) : (empty capacity).Terminated :=
  ⟨[], List.not_mem_nil, h, rfl⟩

end FixedString

namespace FieldType

/-- A stored field satisfies its declaration: a number lies in the declared range, a float is finite
besides, and a string is terminated. -/
def InRange : (type : FieldType) → type.Cell → Prop
  | .int8 range, v => Bounds.contains range v = true
  | .int16 range, v => Bounds.contains range v = true
  | .uint8 range, v => Bounds.contains range v = true
  | .float32 range, x => Bounds.contains range x = true ∧ Binary32.isFinite x = true
  | .chars _, s => FixedString.Terminated s

/-- A declaration that a fresh field satisfies: the range holds zero, its ends are finite, and a
string has room for a terminator. -/
def WellFormed : FieldType → Prop
  | .int8 range => range.contains 0 = true
  | .int16 range => range.contains 0 = true
  | .uint8 range => range.contains 0 = true
  | .float32 range =>
    range.contains .zero = true ∧ range.min.isFinite = true ∧ range.max.isFinite = true
  | .chars capacity => 0 < capacity

instance : DecidablePred WellFormed
  | .int8 range => inferInstanceAs (Decidable (range.contains 0 = true))
  | .int16 range => inferInstanceAs (Decidable (range.contains 0 = true))
  | .uint8 range => inferInstanceAs (Decidable (range.contains 0 = true))
  | .float32 range => inferInstanceAs (Decidable
      (range.contains .zero = true ∧ range.min.isFinite = true ∧ range.max.isFinite = true))
  | .chars capacity => inferInstanceAs (Decidable (0 < capacity))

lemma inRange_float32 {range : Bounds Binary32} (h : (FieldType.float32 range).WellFormed)
    {x : Binary32} (hx : range.contains x = true) : (FieldType.float32 range).InRange x := by
  obtain ⟨_, hmin, hmax⟩ := h
  obtain ⟨hlo, hhi⟩ := Bounds.contains_iff.mp hx
  exact ⟨hx, Binary32.isFinite_of_between hmin hmax hlo hhi⟩

lemma inRange_zero {type : FieldType} (h : type.WellFormed) : type.InRange type.zero := by
  cases type with
  | int8 range => exact h
  | int16 range => exact h
  | uint8 range => exact h
  | float32 range => exact inRange_float32 h h.1
  | chars capacity => exact FixedString.terminated_empty h

lemma inRange_store {type : FieldType} (h : type.WellFormed) (input : type.Input) :
    type.InRange (type.store input) := by
  cases type with
  | int8 range => exact Bounds.contains_applyWide (Bounds.min_le_max_of_contains h) input
  | int16 range => exact Bounds.contains_applyWide (Bounds.min_le_max_of_contains h) input
  | uint8 range => exact Bounds.contains_applyWide (Bounds.min_le_max_of_contains h) input
  | float32 range =>
    exact inRange_float32 h (Bounds.contains_apply (Bounds.min_le_max_of_contains h.1) input)
  | chars capacity => exact FixedString.terminated_ofBytes h input

end FieldType

lemma Slot.field_mem {fields : List Field} (slot : Slot fields) : slot.field ∈ fields := by
  induction slot with
  | here => exact List.mem_cons_self
  | there slot ih => exact List.mem_cons_of_mem _ ih

namespace Record

variable {fields : List Field}

def InRange (record : Record fields) : Prop :=
  ∀ slot : Slot fields, slot.field.type.InRange (record.get slot)

lemma inRange_cons {field : Field} {cell : field.type.Cell} {cells : Record fields} :
    (Record.cons cell cells).InRange ↔ field.type.InRange cell ∧ cells.InRange := by
  constructor
  · intro h
    exact ⟨h .here, fun slot => h (.there slot)⟩
  · rintro ⟨hcell, hcells⟩ slot
    cases slot with
    | here => exact hcell
    | there slot => exact hcells slot

lemma inRange_zero (h : ∀ field ∈ fields, field.type.WellFormed) : (zero fields).InRange := by
  induction fields with
  | nil => exact fun slot => nomatch slot
  | cons field fields ih =>
    exact inRange_cons.mpr ⟨FieldType.inRange_zero (h field List.mem_cons_self),
      ih fun other hother => h other (List.mem_cons_of_mem _ hother)⟩

lemma inRange_set {record : Record fields} (h : record.InRange) (slot : Slot fields)
    {cell : slot.field.type.Cell} (hcell : slot.field.type.InRange cell) :
    (record.set slot cell).InRange := by
  induction slot with
  | here =>
    cases record with
    | cons head cells => exact inRange_cons.mpr ⟨hcell, (inRange_cons.mp h).2⟩
  | there slot ih =>
    cases record with
    | cons head cells =>
      obtain ⟨hhead, hcells⟩ := inRange_cons.mp h
      exact inRange_cons.mpr ⟨hhead, ih hcells hcell⟩

lemma inRange_put (hfields : ∀ field ∈ fields, field.type.WellFormed) {record : Record fields}
    (h : record.InRange) (slot : Slot fields) (input : slot.field.type.Input) :
    (record.put slot input).InRange :=
  inRange_set h slot (FieldType.inRange_store (hfields _ slot.field_mem) input)

lemma inRange_decode (h : ∀ field ∈ fields, field.type.WellFormed) (bytes : List UInt8) :
    (decode fields bytes).InRange := by
  induction fields generalizing bytes with
  | nil => exact fun slot => nomatch slot
  | cons field fields ih =>
    exact inRange_cons.mpr ⟨FieldType.inRange_store (h field List.mem_cons_self) _,
      ih (fun other hother => h other (List.mem_cons_of_mem _ hother)) _⟩

end Record

lemma Kind.wellFormed_fields (kind : Kind) : ∀ field ∈ kind.fields, field.type.WellFormed := by
  cases kind <;> decide

/-- What a program can do with the message it holds: write a field by typed input or by name, or
replace the message by one received from a buffer, of any kind, of the kind with an id, or of one
kind. -/
inductive Operation where
  | put (name : String) (datum : Datum)
  | assign (name : String) (value : FieldValue)
  | receive (buffer : List UInt8)
  | receiveAs (id : UInt8) (buffer : List UInt8)
  | receiveKind (kind : Kind) (buffer : List UInt8)

namespace Message

/-- The message held after an operation. A failed one changes nothing. -/
def step (message : Message) : Operation → Message
  | .put name datum => ((message.put? name datum).map Prod.fst).getD message
  | .assign name value => (message.setField name value).toOption.getD message
  | .receive buffer => (Message.decode buffer).toOption.getD message
  | .receiveAs id buffer => (Message.decodeAs id buffer).toOption.getD message
  | .receiveKind kind buffer => (kind.decode buffer).toOption.getD message

def run (message : Message) (operations : List Operation) : Message :=
  operations.foldl step message

/-- A message that some sequence of operations makes from a fresh one. -/
def Reachable (message : Message) : Prop :=
  ∃ (kind : Kind) (operations : List Operation), (fresh kind).run operations = message

def InRange (message : Message) : Prop := message.record.InRange

lemma read_of_decodeAs {id : UInt8} {buffer : List UInt8} {message : Message}
    (h : decodeAs id buffer = .ok message) : ∃ kind frame, message = Kind.read kind frame := by
  obtain ⟨kind, _, hdecode⟩ := decodeAs_eq_ok_iff.mp h
  exact ⟨kind, Kind.read_of_decode hdecode⟩

lemma read_of_decode {buffer : List UInt8} {message : Message}
    (h : decode buffer = .ok message) : ∃ kind frame, message = Kind.read kind frame := by
  cases buffer with
  | nil => simp [decode] at h
  | cons id rest => exact read_of_decodeAs h

lemma put_of_setField {message next : Message} {name : String} {value : FieldValue}
    (h : message.setField name value = .ok next) :
    ∃ slot input, next = ⟨message.kind, message.record.put slot input⟩ := by
  unfold setField Record.assign at h
  cases hslot : Slot.find? name message.kind.fields with
  | none => simp [hslot, Except.map] at h
  | some slot =>
    rw [hslot] at h
    dsimp only at h
    cases hinput : slot.field.type.accept name value with
    | error fault => simp [hinput, Except.map] at h
    | ok input =>
      rw [hinput] at h
      exact ⟨slot, input, (Except.ok.inj h).symm⟩

lemma put_of_put? {message next : Message} {cut : Option Bool} {name : String} {datum : Datum}
    (h : message.put? name datum = some (next, cut)) :
    ∃ slot input, next = ⟨message.kind, message.record.put slot input⟩ := by
  unfold put? Record.put? at h
  cases hslot : Slot.find? name message.kind.fields with
  | none => simp [hslot] at h
  | some slot =>
    rw [hslot] at h
    dsimp only at h
    cases hinput : slot.field.type.input? datum with
    | none => simp [hinput] at h
    | some input =>
      simp only [hinput, Option.map_some, Option.some.injEq, Prod.mk.injEq] at h
      exact ⟨slot, input, h.1.symm⟩

lemma getD_toOption_cases {ε α : Type} (result : Except ε α) (held : α) :
    result.toOption.getD held = held ∨ result = .ok (result.toOption.getD held) := by
  cases result with
  | error fault => exact .inl rfl
  | ok next => exact .inr rfl

/-- Everything that an operation can do. -/
lemma step_cases (message : Message) (operation : Operation) :
    message.step operation = message ∨
      (∃ slot input, message.step operation = ⟨message.kind, message.record.put slot input⟩) ∨
      ∃ kind frame, message.step operation = Kind.read kind frame := by
  cases operation with
  | put name datum =>
    cases h : message.put? name datum with
    | none => exact .inl (by simp [step, h])
    | some result =>
      obtain ⟨slot, input, hnext⟩ := put_of_put? h
      exact .inr (.inl ⟨slot, input, by simp [step, h, hnext]⟩)
  | assign name value =>
    obtain h | h := getD_toOption_cases (message.setField name value) message
    · exact .inl h
    · exact .inr (.inl (put_of_setField h))
  | receive buffer =>
    obtain h | h := getD_toOption_cases (Message.decode buffer) message
    · exact .inl h
    · exact .inr (.inr (read_of_decode h))
  | receiveAs id buffer =>
    obtain h | h := getD_toOption_cases (Message.decodeAs id buffer) message
    · exact .inl h
    · exact .inr (.inr (read_of_decodeAs h))
  | receiveKind kind buffer =>
    obtain h | h := getD_toOption_cases (kind.decode buffer) message
    · exact .inl h
    · exact .inr (.inr ⟨kind, Kind.read_of_decode h⟩)

lemma inRange_fresh (kind : Kind) : (fresh kind).InRange :=
  Record.inRange_zero kind.wellFormed_fields

lemma inRange_step {message : Message} (h : message.InRange) (operation : Operation) :
    (message.step operation).InRange := by
  obtain hsame | ⟨slot, input, hput⟩ | ⟨kind, frame, hread⟩ := step_cases message operation
  · rw [hsame]
    exact h
  · rw [hput]
    exact Record.inRange_put message.kind.wellFormed_fields h slot input
  · rw [hread]
    exact Record.inRange_decode kind.wellFormed_fields _

lemma inRange_run {message : Message} (h : message.InRange) (operations : List Operation) :
    (message.run operations).InRange := by
  induction operations generalizing message with
  | nil => exact h
  | cons operation operations ih => exact ih (inRange_step h operation)

lemma Reachable.inRange {message : Message} (h : message.Reachable) : message.InRange := by
  obtain ⟨kind, operations, rfl⟩ := h
  exact inRange_run (inRange_fresh kind) operations

/-- In every state of every program, each number lies in its declared range, each float is finite
besides, and each string is a content without zero bytes, one byte shorter than its field at most,
with zero bytes after it. -/
theorem run_fresh_fields_in_range (kind : Kind) (operations : List Operation)
    (slot : Slot ((fresh kind).run operations).kind.fields) :
    slot.field.type.InRange (((fresh kind).run operations).record.get slot) :=
  inRange_run (inRange_fresh kind) operations slot

end Message

end Fieldbus
