import Fieldbus.Command.Basic

/-!
# Showing a received frame

Bytes typed as hexadecimal digits are received as a frame; bytes after the frame are ignored with a
warning.
-/

namespace Fieldbus.Command

def badHex (fault : Hex.Fault) : Failure := ⟨some "invalid hex input", .hex fault⟩

def badFrame (e : FrameError) : Failure := ⟨some "decode failed", .frame e⟩

/-- Receives bytes, as the kind with the given id if there is one. -/
def receive (id : Option UInt8) (bytes : List UInt8) : Except FrameError Message :=
  match id with
  | some id => Message.decodeAs id bytes
  | none => Message.decode bytes

def receiveEvents (id : Option UInt8) (bytes : List UInt8) : List Event :=
  match id with
  | some id => Message.receptionAs id bytes
  | none => Message.reception bytes

def extraBytes (message : Message) (bytes : List UInt8) : List Event :=
  if message.wireLength < bytes.length then
    [⟨.warn, "ducklink_cli::commands::decode",
      "ignoring bytes after the " ++ message.name ++ " message",
      [("extra", .int (bytes.length - message.wireLength : Nat))]⟩]
  else []

def decodeOutput (settings : Settings) (message : Message) : String :=
  match settings.format with
  | .text => message.render
  | .json => message.toJson.pretty

def runDecode (settings : Settings) (hex : String) (id : Option UInt8) :
    Except Failure String × List Event :=
  match Hex.parse hex.toList with
  | .error fault => (.error (badHex fault), [])
  | .ok bytes =>
    match receive id bytes with
    | .error e => (.error (badFrame e), receiveEvents id bytes)
    | .ok message =>
      (.ok (decodeOutput settings message), receiveEvents id bytes ++ extraBytes message bytes)

/-- Prints the checksum of typed bytes, as a number and as it goes over the wire. -/
def runChecksum (settings : Settings) (hex : String) : Except Failure String :=
  match Hex.parse hex.toList with
  | .error fault => .error (badHex fault)
  | .ok bytes =>
    let sum := Fieldbus.checksum bytes
    let wire := String.ofList (Hex.format (LittleEndian.encode16 sum) settings.uppercase)
    match settings.format with
    | .text => .ok (Hex.word settings.uppercase sum ++ " (wire " ++ wire ++ ")")
    | .json => .ok (Json.obj [("length", .int bytes.length), ("checksum", .int sum.toNat),
        ("wire", .str wire)]).pretty

end Fieldbus.Command
