import Fieldbus.Log.Event
import Fieldbus.Message.Frame

/-!
# What the codec logs

Sending a frame and receiving one each leave a trace, and a receiver says why it rejects a frame.  A
buffer that is too short is rejected silently.
-/

namespace Fieldbus

/-- The part of the program that these events come from. -/
def codecTarget : String := "ducklink_core::protocol::codec"

def Message.transmission (message : Message) : Event where
  level := .trace
  target := codecTarget
  message := "encoded message"
  details := [("kind", .str message.name), ("bytes", .int message.encode.length),
    ("checksum", .int (checksum message.body).toNat)]

def unknownIdEvent (id : UInt8) : Event :=
  ⟨.debug, codecTarget, "rejecting message with unknown id", [("id", .int id.toNat)]⟩

def Kind.reception (kind : Kind) (buffer : List UInt8) : List Event :=
  match kind.decode buffer with
  | .ok message =>
    [⟨.trace, codecTarget, "decoded message",
      [("kind", .str kind.name), ("bytes", .int message.wireLength)]⟩]
  | .error (.checksumMismatch computed received) =>
    [⟨.debug, codecTarget, "rejecting message with bad checksum",
      [("kind", .str kind.name), ("computed", .int computed.toNat),
        ("received", .int received.toNat)]⟩]
  | .error (.idMismatch _ found) =>
    [⟨.debug, codecTarget, "rejecting message with foreign id",
      [("kind", .str kind.name), ("found", .int found.toNat)]⟩]
  | .error _ => []

namespace Message

def receptionAs (id : UInt8) (buffer : List UInt8) : List Event :=
  match Kind.ofId? id with
  | none => [unknownIdEvent id]
  | some kind => kind.reception buffer

def reception : List UInt8 → List Event
  | [] => []
  | id :: rest => receptionAs id (id :: rest)

end Message

end Fieldbus
