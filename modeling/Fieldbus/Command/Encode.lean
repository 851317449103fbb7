import Fieldbus.Command.Basic

/-!
# Building a message from assignments

Assignments are applied in order to a fresh message.  A value that had to be changed to fit its
field is reported, but is no failure.
-/

namespace Fieldbus

def adjustment (field : Field) (requested stored : FieldValue) : Event where
  level := .warn
  target := "ducklink_cli::commands::encode"
  message := "value adjusted to fit " ++ field.type.display
  details := [("field", .str field.name), ("requested", .text requested.display),
    ("stored", .text stored.display)]

namespace Message

/-- The report that is due if a field holds something else than was requested. -/
def adjustment? (message : Message) (field : Field) (requested : FieldValue) : Option Event :=
  match message.field? field.name with
  | none => none
  | some stored =>
    if stored.same requested then none else some (adjustment field requested stored)

def apply (message : Message) (assignment : Assignment) :
    Except FieldError (Message × Option Event) :=
  match Slot.find? assignment.field message.kind.fields with
  | none => .error (.unknownField message.kind.name assignment.field)
  | some slot => do
    let requested ← slot.field.type.parse assignment.value
    let next ← message.setField slot.field.name requested
    return (next, next.adjustment? slot.field requested)

/-- Applies assignments in order until one fails, with the reports up to then. -/
def applyAll (message : Message) : List Assignment → Except FieldError Message × List Event
  | [] => (.ok message, [])
  | assignment :: rest =>
    match message.apply assignment with
    | .error e => (.error e, [])
    | .ok (next, report) =>
      let (result, events) := next.applyAll rest
      (result, report.toList ++ events)

def build (kind : Kind) (assignments : List Assignment) : Except FieldError Message × List Event :=
  (fresh kind).applyAll assignments

end Message

namespace Command

def encodedEvent (message : Message) : Event :=
  ⟨.debug, "ducklink_cli::commands::encode", "encoded message",
    [("kind", .text message.name), ("bytes", .int message.encode.length)]⟩

def encodeOutput (settings : Settings) (message : Message) : String :=
  let hex := String.ofList (Hex.format message.encode settings.uppercase)
  match settings.format with
  | .text => hex
  | .json => (Json.obj [("hex", .str hex), ("wire_len", .int message.encode.length),
      ("message", message.toJson)]).pretty

def runEncode (settings : Settings) (kind : String) (assignments : List Assignment) :
    Except Failure String × List Event :=
  match Kind.parse kind with
  | .error cause => (.error cause, [])
  | .ok kind =>
    match Message.build kind assignments with
    | (.error e, events) => (.error (Cause.field e), events)
    | (.ok message, events) =>
      (.ok (encodeOutput settings message),
        events ++ [message.transmission, encodedEvent message])

end Command

end Fieldbus
