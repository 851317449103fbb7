import Fieldbus.Schema.Field

/-!
# Records

A record holds one cell for every field of a layout, in order.  Fields are found by name; a place
that was found is a slot, and the cell at a slot has the type that the layout says.
-/

namespace Fieldbus

inductive Record : List Field → Type where
  | nil : Record []
  | cons {field : Field} {fields : List Field} (cell : field.type.Cell) (cells : Record fields) :
      Record (field :: fields)

/-- The place of a field in a layout. -/
inductive Slot : List Field → Type where
  | here {field : Field} {fields : List Field} : Slot (field :: fields)
  | there {field : Field} {fields : List Field} (slot : Slot fields) : Slot (field :: fields)

namespace Slot

def field : {fields : List Field} → Slot fields → Field
  | field :: _, .here => field
  | _ :: _, .there slot => slot.field

def index : {fields : List Field} → Slot fields → Nat
  | _ :: _, .here => 0
  | _ :: _, .there slot => slot.index + 1

def find? (name : String) : (fields : List Field) → Option (Slot fields)
  | [] => none
  | field :: fields => if field.name = name then some .here else (find? name fields).map .there

def all : (fields : List Field) → List (Slot fields)
  | [] => []
  | _ :: fields => .here :: (all fields).map .there

end Slot

namespace Record

variable {fields : List Field}

def zero : (fields : List Field) → Record fields
  | [] => .nil
  | field :: fields => .cons field.type.zero (zero fields)

def get : {fields : List Field} → Record fields → (slot : Slot fields) → slot.field.type.Cell
  | _ :: _, .cons cell _, .here => cell
  | _ :: _, .cons _ cells, .there slot => cells.get slot

def set : {fields : List Field} → Record fields → (slot : Slot fields) → slot.field.type.Cell →
    Record fields
  | _ :: _, .cons _ cells, .here, cell => .cons cell cells
  | _ :: _, .cons head cells, .there slot, cell => .cons head (cells.set slot cell)

def put (record : Record fields) (slot : Slot fields) (input : slot.field.type.Input) :
    Record fields :=
  record.set slot (slot.field.type.store input)

def encode : {fields : List Field} → Record fields → List UInt8
  | [], .nil => []
  | field :: _, .cons cell cells => field.type.encode cell ++ cells.encode

/-- Reads all fields from the start of a byte list, each stored as any other input. -/
def decode : (fields : List Field) → List UInt8 → Record fields
  | [], _ => .nil
  | field :: fields, bytes =>
    .cons (field.type.store (field.type.decode (bytes.take field.type.width)))
      (decode fields (bytes.drop field.type.width))

def valueAt (record : Record fields) (slot : Slot fields) : FieldValue :=
  slot.field.type.value (record.get slot)

def value? (record : Record fields) (name : String) : Option FieldValue :=
  (Slot.find? name fields).map record.valueAt

def values : {fields : List Field} → Record fields → List (String × FieldValue)
  | [], .nil => []
  | field :: _, .cons cell cells => (field.name, field.type.value cell) :: cells.values

/-- Writes a value by name.  `kind` is the name of the layout in the error for an unknown field. -/
def assign (record : Record fields) (kind name : String) (value : FieldValue) :
    Except FieldError (Record fields) :=
  match Slot.find? name fields with
  | none => .error (.unknownField kind name)
  | some slot => (slot.field.type.accept name value).map (record.put slot)

/-- Writes a datum of the field's own sort by name, and tells whether a string was cut. -/
def put? (record : Record fields) (name : String) (datum : Datum) :
    Option (Record fields × Option Bool) :=
  match Slot.find? name fields with
  | none => none
  | some slot => (slot.field.type.input? datum).map fun input =>
    (record.put slot input, slot.field.type.truncates input)

def data : {fields : List Field} → Record fields → List (String × Datum)
  | [], .nil => []
  | field :: _, .cons cell cells => (field.name, field.type.datum cell) :: cells.data

def same : {fields : List Field} → Record fields → Record fields → Bool
  | [], .nil, .nil => true
  | field :: _, .cons v vs, .cons w ws => field.type.same v w && vs.same ws

def inspect : {fields : List Field} → Record fields → List String
  | [], .nil => []
  | field :: _, .cons cell cells => (field.name ++ ": " ++ field.type.inspect cell) :: cells.inspect

end Record

end Fieldbus
