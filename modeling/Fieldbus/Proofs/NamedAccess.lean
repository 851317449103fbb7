import Fieldbus.Message.Access
import Fieldbus.Proofs.FieldWrites
import Fieldbus.Proofs.StringWrites

/-!
# Access by name follows the layout

The names by which a kind reads its fields, those by which it writes them, those of its setters, and
those of its layout are separate lists. They agree: the field at every slot is read, written and set
by its own name, and no other name is known. From this follow what a write answers, that a write
that fails has changed nothing, and that a listing leaves no field out.
-/

namespace Fieldbus

namespace Slot

variable {fields : List Field}

lemma forall_cons {field : Field} {p : Slot (field :: fields) → Prop} (here : p .here)
    (there : ∀ slot, p (.there slot)) : ∀ slot, p slot := by
  intro slot
  cases slot with
  | here => exact here
  | there slot => exact there slot

lemma forall_nil {p : Slot [] → Prop} : ∀ slot, p slot := fun slot => nomatch slot

lemma map_field_all (fields : List Field) : (all fields).map field = fields := by
  have h : (all fields).map field = fields.mapIdx fun _ field => field :=
    map_all fun _ field => field
  rw [h, List.mapIdx_eq_zipIdx_map, List.zipIdx_map_fst]

end Slot

namespace Record

variable {fields : List Field}

lemma run_change (slot : Slot fields) (taken : Except FieldError slot.field.type.Input)
    (record : Record fields) :
    (change slot taken).run.run record =
      match taken with
      | .ok input => (.ok (), record.put slot input)
      | .error fault => (.error fault, record) := by
  cases taken <;> rfl

lemma run_setter (slot : Slot fields) (input : slot.field.type.Input) (record : Record fields) :
    (setter slot input).run record = (slot.field.type.truncates input, record.put slot input) := by
  change ((slot.field.type.overwrite (record.get slot) input).2,
    record.set slot (slot.field.type.overwrite (record.get slot) input).1) = _
  rw [FieldType.overwrite_eq, put]

end Record

namespace FieldType

lemma accept_of_not_mem_shapes {type : FieldType} {value : FieldValue}
    (h : value.shape ∉ type.shapes) (name : String) :
    type.accept name value = .error (.typeMismatch name type.shape value.shape) := by
  cases type <;> cases value <;> simp_all [shapes, FieldValue.shape, accept]

end FieldType

namespace Kind

variable {kind : Kind} {name : String}

lemma forall_slot {p : (kind : Kind) → Slot kind.fields → Prop}
    (toto : p .downToto .here ∧ p .downToto (.there .here) ∧ p .downToto (.there (.there .here)) ∧
      p .downToto (.there (.there (.there .here))))
    (prout : p .interMcuProut .here)
    (plop : p .upPlop .here ∧ p .upPlop (.there .here) ∧ p .upPlop (.there (.there .here)))
    (report : p .upSpeedReport .here ∧ p .upSpeedReport (.there .here) ∧
      p .upSpeedReport (.there (.there .here))) :
    ∀ kind slot, p kind slot := by
  intro kind
  cases kind with
  | downToto =>
    obtain ⟨h₀, h₁, h₂, h₃⟩ := toto
    exact Slot.forall_cons h₀ (Slot.forall_cons h₁ (Slot.forall_cons h₂
      (Slot.forall_cons h₃ Slot.forall_nil)))
  | interMcuProut => exact Slot.forall_cons prout Slot.forall_nil
  | upPlop =>
    obtain ⟨h₀, h₁, h₂⟩ := plop
    exact Slot.forall_cons h₀ (Slot.forall_cons h₁ (Slot.forall_cons h₂ Slot.forall_nil))
  | upSpeedReport =>
    obtain ⟨h₀, h₁, h₂⟩ := report
    exact Slot.forall_cons h₀ (Slot.forall_cons h₁ (Slot.forall_cons h₂ Slot.forall_nil))

-- In each table the names of the slots are found by computation, one slot of the catalog at a time.

lemma lookUp_name :
    ∀ (kind : Kind) (slot : Slot kind.fields) (record : Record kind.fields),
      kind.lookUp record slot.field.name = some (record.valueAt slot) :=
  forall_slot ⟨fun _ => rfl, fun _ => rfl, fun _ => rfl, fun _ => rfl⟩ (fun _ => rfl)
    ⟨fun _ => rfl, fun _ => rfl, fun _ => rfl⟩ ⟨fun _ => rfl, fun _ => rfl, fun _ => rfl⟩

lemma lookUp_of_not_mem (h : name ∉ kind.fields.map Field.name) (record : Record kind.fields) :
    kind.lookUp record name = none := by
  cases kind <;>
    simp only [fields, List.map_cons, List.map_nil, List.mem_cons, List.not_mem_nil, or_false,
      not_or] at h <;>
    simp [lookUp, h]

lemma write_name (value : FieldValue) :
    ∀ (kind : Kind) (slot : Slot kind.fields), kind.write slot.field.name value =
      Record.change slot (slot.field.type.accept slot.field.name value) := by
  cases value <;> exact forall_slot ⟨rfl, rfl, rfl, rfl⟩ rfl ⟨rfl, rfl, rfl⟩ ⟨rfl, rfl, rfl⟩

lemma write_of_not_mem (h : name ∉ kind.fields.map Field.name) (value : FieldValue) :
    kind.write name value = throw (.unknownField kind.name name) := by
  cases kind <;>
    simp only [fields, List.map_cons, List.map_nil, List.mem_cons, List.not_mem_nil, or_false,
      not_or] at h <;>
    simp [write, h]

lemma setter?_name (datum : Datum) :
    ∀ (kind : Kind) (slot : Slot kind.fields), kind.setter? slot.field.name datum =
      (slot.field.type.input? datum).map (Record.setter slot) := by
  cases datum <;> exact forall_slot ⟨rfl, rfl, rfl, rfl⟩ rfl ⟨rfl, rfl, rfl⟩ ⟨rfl, rfl, rfl⟩

lemma setter?_of_not_mem (h : name ∉ kind.fields.map Field.name) (datum : Datum) :
    kind.setter? name datum = none := by
  cases kind <;>
    simp only [fields, List.map_cons, List.map_nil, List.mem_cons, List.not_mem_nil, or_false,
      not_or] at h <;>
    simp [setter?, h]

end Kind

namespace Message

variable {message : Message} {name : String}

lemma lookUp_eq (message : Message) (name : String) :
    message.lookUp name = message.field? name := by
  unfold lookUp field? Record.value?
  cases hslot : Slot.find? name message.kind.fields with
  | none => exact Kind.lookUp_of_not_mem (Slot.find?_eq_none_iff.mp hslot) _
  | some slot =>
    rw [← Slot.name_of_find? hslot, Kind.lookUp_name]
    rfl

lemma write_slot (message : Message) (slot : Slot message.kind.fields) (value : FieldValue) :
    message.write slot.field.name value =
      match slot.field.type.accept slot.field.name value with
      | .ok input => (.ok (), ⟨message.kind, message.record.put slot input⟩)
      | .error fault => (.error fault, message) := by
  unfold write
  rw [Kind.write_name, Record.run_change]
  cases slot.field.type.accept slot.field.name value <;> rfl

lemma write_of_not_mem (h : name ∉ message.kind.fields.map Field.name) (value : FieldValue) :
    message.write name value = (.error (.unknownField message.kind.name name), message) := by
  unfold write
  rw [Kind.write_of_not_mem h]
  rfl

lemma write_eq (message : Message) (name : String) (value : FieldValue) :
    message.write name value =
      match message.setField name value with
      | .ok next => (.ok (), next)
      | .error fault => (.error fault, message) := by
  cases hslot : Slot.find? name message.kind.fields with
  | none =>
    rw [write_of_not_mem (Slot.find?_eq_none_iff.mp hslot), setField, Record.assign, hslot]
    rfl
  | some slot =>
    rw [← Slot.name_of_find? hslot, write_slot, setField_name]
    cases slot.field.type.accept slot.field.name value <;> rfl

/-- Setting a field in place is writing the datum to a copy, and is known by the same names. -/
lemma set?_eq (message : Message) (name : String) (datum : Datum) :
    message.set? name datum = message.put? name datum := by
  unfold set?
  cases hslot : Slot.find? name message.kind.fields with
  | none =>
    rw [Kind.setter?_of_not_mem (Slot.find?_eq_none_iff.mp hslot), put?, Record.put?, hslot]
    rfl
  | some slot =>
    rw [← Slot.name_of_find? hslot, Kind.setter?_name, put?_name]
    cases slot.field.type.input? datum with
    | none => rfl
    | some input => simp only [Option.map_some, Record.run_setter]

lemma listing_eq_map (message : Message) :
    message.listing = (Slot.all message.kind.fields).map
      fun slot => (slot.field.name, message.record.valueAt slot) := by
  unfold listing
  -- Over the slots every name is found, so that the filter drops nothing.
  conv_lhs => rw [← Slot.map_field_all message.kind.fields]
  rw [List.filterMap_map, ← List.filterMap_eq_map]
  congr 1
  funext slot
  simp [lookUp, Kind.lookUp_name]

lemma exists_slot_of_mem (h : name ∈ message.kind.fields.map Field.name) :
    ∃ slot : Slot message.kind.fields, slot.field.name = name := by
  cases hslot : Slot.find? name message.kind.fields with
  | none => exact absurd h (Slot.find?_eq_none_iff.mp hslot)
  | some slot => exact ⟨slot, Slot.name_of_find? hslot⟩

lemma isSome_lookUp_iff :
    (message.lookUp name).isSome ↔ name ∈ message.kind.fields.map Field.name := by
  constructor
  · intro h
    by_contra hname
    rw [lookUp, Kind.lookUp_of_not_mem hname] at h
    simp at h
  · intro h
    obtain ⟨slot, rfl⟩ := exists_slot_of_mem h
    rw [lookUp, Kind.lookUp_name]
    rfl

lemma write_slot_fst (message : Message) (slot : Slot message.kind.fields) (value : FieldValue) :
    (message.write slot.field.name value).1 =
      if value.shape ∈ slot.field.type.shapes then .ok ()
      else .error (.typeMismatch slot.field.name slot.field.type.shape value.shape) := by
  rw [write_slot]
  by_cases h : value.shape ∈ slot.field.type.shapes
  · obtain ⟨input, haccept⟩ := FieldType.exists_accept h
    rw [haccept, if_pos h]
  · rw [FieldType.accept_of_not_mem_shapes h, if_neg h]

lemma write_ne_unknownField_iff {value : FieldValue} :
    (∀ kind field, (message.write name value).1 ≠ .error (.unknownField kind field)) ↔
      name ∈ message.kind.fields.map Field.name := by
  constructor
  · intro h
    by_contra hname
    apply h message.kind.name name
    rw [write_of_not_mem hname]
  · intro h kind field
    obtain ⟨slot, rfl⟩ := exists_slot_of_mem h
    rw [write_slot_fst]
    split <;> simp

lemma write_snd_of_error {value : FieldValue} {fault : FieldError}
    (h : (message.write name value).1 = .error fault) : (message.write name value).2 = message := by
  rw [write_eq] at h ⊢
  cases hset : message.setField name value with
  | ok next => simp [hset] at h
  | error fault => rfl

lemma listing_names (message : Message) :
    message.listing.map Prod.fst = message.kind.fields.map Field.name := by
  conv_rhs => rw [← Slot.map_field_all message.kind.fields]
  rw [listing_eq_map, List.map_map, List.map_map]
  rfl

lemma lookUp_of_mem_listing {value : FieldValue} (h : (name, value) ∈ message.listing) :
    message.lookUp name = some value := by
  unfold listing at h
  obtain ⟨field, _, hvalue⟩ := List.mem_filterMap.mp h
  obtain ⟨_, hread, hpair⟩ := Option.map_eq_some_iff.mp hvalue
  obtain ⟨rfl, rfl⟩ := Prod.mk.inj hpair
  exact hread

/-- Reading, writing and listing by name follow the layout of a message. A name can be read exactly
if it is in the layout, and is known to a write exactly then. A write to a field of the layout
succeeds exactly if the field takes values of that shape, in particular for every value that was
read from text for the field; a write that fails leaves the message as it was. A listing holds every
field once, in the order of the layout. -/
theorem named_access_follows_layout (message : Message) :
    (∀ name, message.lookUp name = message.field? name ∧
      ((message.lookUp name).isSome ↔ name ∈ message.kind.fields.map Field.name)) ∧
    (∀ name value,
      message.write name value = (match message.setField name value with
        | .ok next => (.ok (), next)
        | .error fault => (.error fault, message)) ∧
      ((∀ kind field, (message.write name value).1 ≠ .error (.unknownField kind field)) ↔
        name ∈ message.kind.fields.map Field.name) ∧
      ∀ fault, (message.write name value).1 = .error fault →
        (message.write name value).2 = message) ∧
    (∀ (slot : Slot message.kind.fields) value,
      (message.write slot.field.name value).1 =
        if value.shape ∈ slot.field.type.shapes then .ok ()
        else .error (.typeMismatch slot.field.name slot.field.type.shape value.shape)) ∧
    (∀ (slot : Slot message.kind.fields) raw value, slot.field.type.parse raw = .ok value →
      (message.write slot.field.name value).1 = .ok ()) ∧
    message.listing = message.fields ∧
      message.listing.map Prod.fst = message.kind.fields.map Field.name ∧
      (message.listing.map Prod.fst).Nodup ∧
      ∀ name value, (name, value) ∈ message.listing → message.lookUp name = some value := by
  refine ⟨?_, ?_, message.write_slot_fst, ?_, ?_, message.listing_names, ?_, ?_⟩
  · intro name
    exact ⟨message.lookUp_eq name, isSome_lookUp_iff⟩
  · intro name value
    exact ⟨message.write_eq name value, write_ne_unknownField_iff, fun _ => write_snd_of_error⟩
  · intro slot raw value hparse
    rw [write_slot_fst, if_pos (FieldType.shape_mem_of_parse hparse)]
  · rw [listing_eq_map]
    exact message.record.values_eq.symm
  · rw [listing_names]
    exact message.kind.nodup_names
  · intro name value
    exact lookUp_of_mem_listing

theorem named_access_follows_layout_blanks :
    let message := (fresh .upPlop).run [.put "entier" (.int 5)]
    let decimal : Slot message.kind.fields := .here
    let entier : Slot message.kind.fields := .there .here
    (message.write decimal.field.name (.chars "warm")).1 =
        .error (.typeMismatch "decimal" .float .string) ∧
      (message.write decimal.field.name (.chars "warm")).2 = message ∧
      entier.field.type.parse " -7 " = .ok (.int (-7)) ∧
      (message.write entier.field.name (.int (-7))).1 = .ok () := by
  intro message decimal entier
  obtain ⟨-, hwrite, -, hparse, -⟩ := named_access_follows_layout message
  have hfault : (message.write decimal.field.name (.chars "warm")).1 =
      .error (.typeMismatch "decimal" .float .string) := rfl
  have hread : entier.field.type.parse " -7 " = .ok (.int (-7)) := by rfl
  exact ⟨hfault, (hwrite _ _).2.2 _ hfault, hread, hparse entier _ _ hread⟩

end Message

end Fieldbus
