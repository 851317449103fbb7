import Fieldbus.Message.Basic

/-!
# Reading and writing in place by name

Here every kind spells out once more by which names its fields are read, by which they are written,
and which setter each has for its own sort of input. A write works on a message in place, and
whatever it has changed by the time it fails stays changed. Listing the fields asks for each name of
the layout in turn, and skips those that cannot be read.
-/

namespace Fieldbus

namespace FieldValue

def toInt (field : String) : FieldValue → Except FieldError Int
  | .int n => .ok n
  | value => .error (.typeMismatch field .integer value.shape)

/-- The float of a value for the given field, or the one nearest to its integer. -/
def toFloat (field : String) : FieldValue → Except FieldError Binary32
  | .float x => .ok x
  | .int n => .ok (Binary32.ofInt n)
  | value => .error (.typeMismatch field .float value.shape)

def toBytes (field : String) : FieldValue → Except FieldError (List UInt8)
  | .chars text => .ok (Utf8.encode text.toList)
  | value => .error (.typeMismatch field .string value.shape)

end FieldValue

abbrev Record.Change (fields : List Field) := ExceptT FieldError (StateM (Record fields)) Unit

def Record.change {fields : List Field} (slot : Slot fields)
    (taken : Except FieldError slot.field.type.Input) : Record.Change fields := do
  let input ← taken
  modify (·.put slot input)

/-- Sets the cell at a slot in place, and tells whether a string was cut. -/
def Record.setter {fields : List Field} (slot : Slot fields) (input : slot.field.type.Input) :
    StateM (Record fields) (Option Bool) :=
  modifyGet fun record =>
    let (cell, cut) := slot.field.type.overwrite (record.get slot) input
    (cut, record.set slot cell)

namespace Kind

def lookUp : (kind : Kind) → Record kind.fields → String → Option FieldValue
  | .downToto, record, field =>
    match field with
    | "decimal" => some (.float (record.get .here))
    | "entier" => some (.int (Int16.toInt (record.get (.there .here))))
    | "name" => some (.chars (FixedString.lossy (record.get (.there (.there .here)))))
    | "vx" => some (.float (record.get (.there (.there (.there .here)))))
    | _ => none
  | .interMcuProut, record, field =>
    match field with
    | "odeur" => some (.chars (FixedString.lossy (record.get .here)))
    | _ => none
  | .upPlop, record, field =>
    match field with
    | "decimal" => some (.float (record.get .here))
    | "entier" => some (.int (Int16.toInt (record.get (.there .here))))
    | "name" => some (.chars (FixedString.lossy (record.get (.there (.there .here)))))
    | _ => none
  | .upSpeedReport, record, field =>
    match field with
    | "vtheta" => some (.int (UInt8.toNat (record.get .here)))
    | "vx" => some (.int (Int8.toInt (record.get (.there .here))))
    | "vy" => some (.int (Int16.toInt (record.get (.there (.there .here)))))
    | _ => none

def write : (kind : Kind) → String → FieldValue → Record.Change kind.fields
  | .downToto, field, value =>
    match field with
    | "decimal" => Record.change .here (value.toFloat "decimal")
    | "entier" => Record.change (.there .here) (value.toInt "entier")
    | "name" => Record.change (.there (.there .here)) (value.toBytes "name")
    | "vx" => Record.change (.there (.there (.there .here))) (value.toFloat "vx")
    | _ => throw (.unknownField downToto.name field)
  | .interMcuProut, field, value =>
    match field with
    | "odeur" => Record.change .here (value.toBytes "odeur")
    | _ => throw (.unknownField interMcuProut.name field)
  | .upPlop, field, value =>
    match field with
    | "decimal" => Record.change .here (value.toFloat "decimal")
    | "entier" => Record.change (.there .here) (value.toInt "entier")
    | "name" => Record.change (.there (.there .here)) (value.toBytes "name")
    | _ => throw (.unknownField upPlop.name field)
  | .upSpeedReport, field, value =>
    match field with
    | "vtheta" => Record.change .here (value.toInt "vtheta")
    | "vx" => Record.change (.there .here) (value.toInt "vx")
    | "vy" => Record.change (.there (.there .here)) (value.toInt "vy")
    | _ => throw (.unknownField upSpeedReport.name field)

/-- The setter of a field for a datum of the field's own sort. -/
def setter? : (kind : Kind) → String → Datum → Option (StateM (Record kind.fields) (Option Bool))
  | .downToto, field, datum =>
    match field, datum with
    | "decimal", .float x => some (Record.setter .here x)
    | "entier", .int n => some (Record.setter (.there .here) n)
    | "name", .bytes bytes => some (Record.setter (.there (.there .here)) bytes)
    | "vx", .float x => some (Record.setter (.there (.there (.there .here))) x)
    | _, _ => none
  | .interMcuProut, field, datum =>
    match field, datum with
    | "odeur", .bytes bytes => some (Record.setter .here bytes)
    | _, _ => none
  | .upPlop, field, datum =>
    match field, datum with
    | "decimal", .float x => some (Record.setter .here x)
    | "entier", .int n => some (Record.setter (.there .here) n)
    | "name", .bytes bytes => some (Record.setter (.there (.there .here)) bytes)
    | _, _ => none
  | .upSpeedReport, field, datum =>
    match field, datum with
    | "vtheta", .int n => some (Record.setter .here n)
    | "vx", .int n => some (Record.setter (.there .here) n)
    | "vy", .int n => some (Record.setter (.there (.there .here)) n)
    | _, _ => none

end Kind

namespace Message

def lookUp (message : Message) (name : String) : Option FieldValue :=
  message.kind.lookUp message.record name

/-- Writes a field of a message by name, and returns what became of the message besides. -/
def write (message : Message) (name : String) (value : FieldValue) :
    Except FieldError Unit × Message :=
  let (result, record) := (message.kind.write name value).run.run message.record
  (result, ⟨message.kind, record⟩)

def set? (message : Message) (name : String) (datum : Datum) : Option (Message × Option Bool) :=
  (message.kind.setter? name datum).map fun setter =>
    let (cut, record) := setter.run message.record
    (⟨message.kind, record⟩, cut)

/-- Names and values of the fields that can be read, in the order of the layout. -/
def listing (message : Message) : List (String × FieldValue) :=
  message.kind.fields.filterMap fun field =>
    (message.lookUp field.name).map fun value => (field.name, value)

end Message

end Fieldbus
