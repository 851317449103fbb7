import Fieldbus.Command.Encode
import Mathlib.Data.List.Nodup
import Mathlib.Tactic.Lemma

/-!
# One assignment

An assignment finds its field by name, reads its text and stores what it read. It fails only if
there is no such field or the text cannot be read; otherwise it changes one cell, to what storing
makes of the input, and reports the cell exactly if its value is another than the one that was
read.
-/

namespace Fieldbus

namespace Slot

lemma name_of_find? {name : String} {fields : List Field} {slot : Slot fields}
    (h : find? name fields = some slot) : slot.field.name = name := by
  induction fields with
  | nil => nomatch h
  | cons field fields ih =>
    unfold find? at h
    by_cases hname : field.name = name
    · rw [if_pos hname] at h
      obtain rfl := Option.some.inj h
      exact hname
    · rw [if_neg hname] at h
      obtain ⟨slot, hslot, rfl⟩ := Option.map_eq_some_iff.mp h
      exact ih hslot

lemma name_mem {fields : List Field} (slot : Slot fields) :
    slot.field.name ∈ fields.map Field.name := by
  induction slot with
  | here => exact List.mem_cons_self
  | there slot ih => exact List.mem_cons_of_mem _ ih

lemma find?_name {fields : List Field} (h : (fields.map Field.name).Nodup) (slot : Slot fields) :
    find? slot.field.name fields = some slot := by
  induction slot with
  | here => exact if_pos rfl
  | @there field fields slot ih =>
    rw [List.map_cons, List.nodup_cons] at h
    have hne : field.name ≠ slot.field.name := fun heq => h.1 (heq ▸ slot.name_mem)
    change find? slot.field.name (field :: fields) = _
    rw [find?, if_neg hne, ih h.2]
    rfl

lemma find?_eq_none_iff {name : String} {fields : List Field} :
    find? name fields = none ↔ name ∉ fields.map Field.name := by
  induction fields with
  | nil => simp [find?]
  | cons field fields ih =>
    by_cases h : field.name = name
    · simp [find?, h]
    · simp [find?, h, ih, Ne.symm h]

lemma mem_all {fields : List Field} (slot : Slot fields) : slot ∈ all fields := by
  induction slot with
  | here => exact List.mem_cons_self
  | there slot ih => exact List.mem_cons_of_mem _ (List.mem_map.mpr ⟨slot, ih, rfl⟩)

end Slot

lemma Kind.nodup_names (kind : Kind) : (kind.fields.map Field.name).Nodup := by
  cases kind <;> decide

lemma Kind.slots_ne_nil (kind : Kind) : Slot.all kind.fields ≠ [] := by
  cases kind <;> exact List.cons_ne_nil _ _

namespace Record

variable {fields : List Field}

lemma get_set (record : Record fields) (slot : Slot fields) (cell : slot.field.type.Cell) :
    (record.set slot cell).get slot = cell := by
  induction slot with
  | here => cases record; rfl
  | there slot ih => cases record; exact ih _ cell

lemma get_set_of_ne (record : Record fields) {slot other : Slot fields} (h : other ≠ slot)
    (cell : slot.field.type.Cell) : (record.set slot cell).get other = record.get other := by
  induction slot with
  | here =>
    cases record
    cases other with
    | here => exact absurd rfl h
    | there other => rfl
  | there slot ih =>
    cases record
    cases other with
    | here => rfl
    | there other => exact ih _ (fun heq => h (heq ▸ rfl)) cell

lemma ext_get {record other : Record fields} (h : ∀ slot, record.get slot = other.get slot) :
    record = other := by
  induction record with
  | nil => cases other; rfl
  | cons cell cells ih =>
    cases other with
    | cons cell' cells' =>
      obtain rfl : cell = cell' := h .here
      rw [ih fun slot => h (.there slot)]

lemma values_eq (record : Record fields) :
    record.values = (Slot.all fields).map fun slot => (slot.field.name, record.valueAt slot) := by
  induction record with
  | nil => rfl
  | cons cell cells ih =>
    simp only [values, Slot.all, List.map_cons, List.map_map, ih]
    rfl

/-- Taking over cells one after the other, a cell that is as in the target stays so, also when it is
taken over again later. -/
lemma get_foldl_set (target : Record fields) (order : List (Slot fields)) (record : Record fields)
    {slot : Slot fields} (h : slot ∈ order ∨ record.get slot = target.get slot) :
    (order.foldl (fun held slot => held.set slot (target.get slot)) record).get slot =
      target.get slot := by
  induction order generalizing record with
  | nil => exact h.resolve_left List.not_mem_nil
  | cons first order ih =>
    apply ih
    by_cases hfirst : slot = first
    · right
      rw [hfirst, get_set]
    · rw [get_set_of_ne record hfirst]
      exact h.imp_left fun hmem => (List.mem_cons.mp hmem).resolve_left hfirst

lemma foldl_set_all (target record : Record fields) :
    (Slot.all fields).foldl (fun held slot => held.set slot (target.get slot)) record = target :=
  ext_get fun slot => get_foldl_set target _ record (.inl slot.mem_all)

end Record

namespace FieldType

variable {type : FieldType} {requested : FieldValue}

lemma shape_of_parse {raw : String} (h : type.parse raw = .ok requested) :
    requested.shape = type.shape := by
  unfold parse at h
  cases type with
  | chars capacity =>
    obtain rfl := Except.ok.inj h
    rfl
  | _ =>
    dsimp only at h
    split at h
    · obtain rfl := Except.ok.inj h
      rfl
    · nomatch h

/-- The shapes of values that a field can be set to. A float field takes integers besides. -/
def shapes : FieldType → List Shape
  | .int8 _ | .int16 _ | .uint8 _ => [.integer]
  | .float32 _ => [.integer, .float]
  | .chars _ => [.string]

lemma shape_mem_shapes (type : FieldType) : type.shape ∈ type.shapes := by
  cases type <;> simp [shape, shapes]

lemma shape_mem_of_parse {raw : String} (h : type.parse raw = .ok requested) :
    requested.shape ∈ type.shapes := by
  rw [shape_of_parse h]
  exact type.shape_mem_shapes

lemma exists_accept (h : requested.shape ∈ type.shapes) :
    ∃ input, ∀ name, type.accept name requested = .ok input := by
  cases type <;> cases requested <;> simp_all [shapes, FieldValue.shape, accept]

end FieldType

namespace Message

lemma setField_name (message : Message) (slot : Slot message.kind.fields) (value : FieldValue) :
    message.setField slot.field.name value =
      (slot.field.type.accept slot.field.name value).map
        fun input => ⟨message.kind, message.record.put slot input⟩ := by
  rw [setField, Record.assign, Slot.find?_name message.kind.nodup_names]
  dsimp only
  cases slot.field.type.accept slot.field.name value <;> rfl

lemma put?_name (message : Message) (slot : Slot message.kind.fields) (datum : Datum) :
    message.put? slot.field.name datum =
      (slot.field.type.input? datum).map fun input =>
        (⟨message.kind, message.record.put slot input⟩, slot.field.type.truncates input) := by
  rw [put?, Record.put?, Slot.find?_name message.kind.nodup_names]
  dsimp only
  rw [Option.map_map]
  rfl

lemma field?_put (message : Message) (slot : Slot message.kind.fields)
    (input : slot.field.type.Input) :
    field? ⟨message.kind, message.record.put slot input⟩ slot.field.name =
      some (slot.field.type.value (slot.field.type.store input)) := by
  change (Slot.find? slot.field.name message.kind.fields).map _ = _
  rw [Slot.find?_name message.kind.nodup_names, Option.map_some, Record.valueAt, Record.put,
    Record.get_set]

def reportAt {fields : List Field} (slot : Slot fields) (requested : FieldValue)
    (cell : slot.field.type.Cell) : Option Event :=
  if (slot.field.type.value cell).same requested then none
  else some (adjustment slot.field requested (slot.field.type.value cell))

variable {message : Message} {assignment : Assignment}

lemma adjustment?_put (slot : Slot message.kind.fields) (requested : FieldValue)
    (input : slot.field.type.Input) :
    adjustment? ⟨message.kind, message.record.put slot input⟩ slot.field requested =
      reportAt slot requested (slot.field.type.store input) := by
  unfold adjustment?
  rw [field?_put]
  rfl

lemma apply_eq_ok {slot : Slot message.kind.fields} {requested : FieldValue}
    {input : slot.field.type.Input}
    (hslot : Slot.find? assignment.field message.kind.fields = some slot)
    (hparse : slot.field.type.parse assignment.value = .ok requested)
    (haccept : slot.field.type.accept slot.field.name requested = .ok input) :
    message.apply assignment = .ok (⟨message.kind, message.record.put slot input⟩,
      reportAt slot requested (slot.field.type.store input)) := by
  have hset : message.setField slot.field.name requested =
      .ok ⟨message.kind, message.record.put slot input⟩ := by
    rw [setField_name, haccept]
    rfl
  unfold apply
  rw [hslot]
  dsimp only
  rw [hparse]
  change (message.setField slot.field.name requested >>= _) = _
  rw [hset]
  change Except.ok (_, _) = _
  rw [adjustment?_put]

/-- Everything that an assignment can do if it succeeds. -/
lemma apply_cases {next : Message} {report : Option Event}
    (h : message.apply assignment = .ok (next, report)) :
    ∃ slot requested input, Slot.find? assignment.field message.kind.fields = some slot ∧
      slot.field.type.parse assignment.value = .ok requested ∧
      slot.field.type.accept slot.field.name requested = .ok input ∧
      next = ⟨message.kind, message.record.put slot input⟩ ∧
      report = reportAt slot requested (slot.field.type.store input) := by
  cases hslot : Slot.find? assignment.field message.kind.fields with
  | none => simp [apply, hslot] at h
  | some slot =>
    cases hparse : slot.field.type.parse assignment.value with
    | error fault => simp [apply, hslot, hparse, bind, Except.bind] at h
    | ok requested =>
      obtain ⟨input, haccept⟩ := FieldType.exists_accept (FieldType.shape_mem_of_parse hparse)
      rw [apply_eq_ok hslot hparse (haccept _)] at h
      obtain ⟨hnext, hreport⟩ := Prod.mk.inj (Except.ok.inj h)
      exact ⟨slot, requested, input, rfl, hparse, haccept _, hnext.symm, hreport.symm⟩

end Message

end Fieldbus
