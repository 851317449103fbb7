import Fieldbus.Message.Kind
import Fieldbus.Schema.Record
import Fieldbus.Text.Basic

/-!
# Messages

A message is a kind together with a record of that kind's layout.  Fields are read and written by
name, and a failed write leaves the message as it was.
-/

namespace Fieldbus

structure Message where
  kind : Kind
  record : Record kind.fields

namespace Message

def fresh (kind : Kind) : Message := ⟨kind, Record.zero kind.fields⟩

def id (message : Message) : UInt8 := message.kind.id

def name (message : Message) : String := message.kind.name

def wireLength (message : Message) : Nat := message.kind.wireLength

def field? (message : Message) (name : String) : Option FieldValue := message.record.value? name

def fields (message : Message) : List (String × FieldValue) := message.record.values

def data (message : Message) : List (String × Datum) := message.record.data

/-- Writes a field by name, bringing the value into range. -/
def setField (message : Message) (name : String) (value : FieldValue) :
    Except FieldError Message :=
  (message.record.assign message.kind.name name value).map (⟨message.kind, ·⟩)

/-- Writes a datum of the field's own sort, and tells whether a string was cut.  There is no result
if the field does not exist or is of another sort. -/
def put? (message : Message) (name : String) (datum : Datum) : Option (Message × Option Bool) :=
  (message.record.put? name datum).map fun (record, cut) => (⟨message.kind, record⟩, cut)

/-- Equality of messages, floats compared as numbers. -/
def same (m₁ m₂ : Message) : Bool :=
  if h : m₁.kind = m₂.kind then m₁.record.same (h ▸ m₂.record) else false

def toJson (message : Message) : Json :=
  .obj [("kind", .str message.name),
    ("fields", .obj (message.fields.map fun (name, value) => (name, value.toJson)))]

def inspect (message : Message) : String :=
  let tag := message.kind.tag
  tag ++ "(" ++ tag ++ " \x7b " ++ ", ".intercalate message.record.inspect ++ " \x7d)"

/-- A message for an operator: a heading, then one line for each field with aligned values. -/
def render (message : Message) : String :=
  let width := Field.nameWidth message.kind.fields
  message.fields.foldl
    (fun text (name, value) => text ++ "\n  " ++ Text.pad width name ++ "  " ++ value.display)
    message.kind.heading

end Message

end Fieldbus
