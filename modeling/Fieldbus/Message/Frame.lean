import Fieldbus.Message.Basic
import Fieldbus.Wire

/-!
# Frames

The wire form of a message: its id, its fields in order, and the checksum of both, low byte first.
A receiver checks length, checksum and id in this order before it reads any field, so that damage to
the id shows as a wrong checksum.
-/

namespace Fieldbus

inductive FrameError where
  | insufficientBuffer (needed available : Nat)
  | unknownId (id : UInt8)
  | idMismatch (expected found : UInt8)
  | checksumMismatch (computed received : UInt16)
deriving DecidableEq

/-- A word as four hexadecimal digits, the high byte first. -/
def Hex.word (upper : Bool) (word : UInt16) : String :=
  "0x" ++ String.ofList (Hex.format (LittleEndian.encode16 word).reverse upper)

def FrameError.message : FrameError → String
  | .insufficientBuffer needed available =>
    "insufficient buffer: need " ++ Text.decimal needed ++ " bytes, got " ++ Text.decimal available
  | .unknownId id => "unknown message id: " ++ Text.decimal id.toNat
  | .idMismatch expected found =>
    "message id mismatch: expected " ++ Text.decimal expected.toNat ++ ", found " ++
      Text.decimal found.toNat
  | .checksumMismatch computed received =>
    "checksum mismatch: computed " ++ Hex.word true computed ++ ", received " ++
      Hex.word true received

namespace Message

/-- The part of a frame that the checksum covers. -/
def body (message : Message) : List UInt8 := message.id :: message.record.encode

def encode (message : Message) : List UInt8 :=
  message.body ++ LittleEndian.encode16 (checksum message.body)

/-- Writes the frame over the start of a buffer, and returns the number of bytes written.  Nothing
is written into a buffer that is too short. -/
def serialize (message : Message) (buffer : List UInt8) :
    Except FrameError Nat × List UInt8 :=
  if buffer.length < message.wireLength then
    (.error (.insufficientBuffer message.wireLength buffer.length), buffer)
  else (.ok message.wireLength, message.encode ++ buffer.drop message.wireLength)

end Message

namespace Kind

def bodyLength (kind : Kind) : Nat := kind.wireLength - checksumLength

/-- The message of this kind whose fields stand after the id in a frame. -/
def read (kind : Kind) (frame : List UInt8) : Message :=
  ⟨kind, Record.decode kind.fields (frame.drop idLength)⟩

def decode (kind : Kind) (buffer : List UInt8) : Except FrameError Message :=
  let body := buffer.take kind.bodyLength
  let received := LittleEndian.decode16 (buffer.drop kind.bodyLength)
  let found := body.headD 0
  if buffer.length < kind.wireLength then
    .error (.insufficientBuffer kind.wireLength buffer.length)
  else if received ≠ checksum body then .error (.checksumMismatch (checksum body) received)
  else if found ≠ kind.id then .error (.idMismatch kind.id found)
  else .ok (kind.read body)

end Kind

namespace Message

def decodeAs (id : UInt8) (buffer : List UInt8) : Except FrameError Message :=
  match Kind.ofId? id with
  | none => .error (.unknownId id)
  | some kind => kind.decode buffer

def decode : List UInt8 → Except FrameError Message
  | [] => .error (.insufficientBuffer idLength 0)
  | id :: rest => decodeAs id (id :: rest)

end Message

end Fieldbus
