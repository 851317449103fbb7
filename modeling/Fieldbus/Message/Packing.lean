import Fieldbus.Message.Frame
import Fieldbus.Wire

/-!
# Packing a frame in place

Frames are written into a buffer of their own length and read from one by a cursor that visits the
fields of a kind in turn.  Here every kind spells out its fields once more, and nothing but the
final position of the cursor is compared with the layout.  There is no result where an access would
leave the buffer or a position is not the expected one.
-/

namespace Fieldbus

namespace Kind

def pack : (kind : Kind) → Record kind.fields → StateT Cursor Option Unit
  | .downToto, .cons decimal (.cons entier (.cons name (.cons vx .nil))) => do
    Cursor.putFloat32 decimal
    Cursor.putInt16 entier
    Cursor.put name.raw
    Cursor.putFloat32 vx
  | .interMcuProut, .cons odeur .nil => Cursor.put odeur.raw
  | .upPlop, .cons decimal (.cons entier (.cons name .nil)) => do
    Cursor.putFloat32 decimal
    Cursor.putInt16 entier
    Cursor.put name.raw
  | .upSpeedReport, .cons vtheta (.cons vx (.cons vy .nil)) => do
    Cursor.putUInt8 vtheta
    Cursor.putInt8 vx
    Cursor.putInt16 vy

/-- Reads the fields of a record, storing each in a fresh one like any other input. -/
def unpack : (kind : Kind) → StateT Cursor Option (Record kind.fields)
  | .downToto => do
    let record := Record.zero downToto.fields
    let record := record.put .here (← Cursor.takeFloat32)
    let record := record.put (.there .here) (← Cursor.takeInt16).toInt
    let record := record.put (.there (.there .here)) (← Cursor.take 12)
    return record.put (.there (.there (.there .here))) (← Cursor.takeFloat32)
  | .interMcuProut => do
    let record := Record.zero interMcuProut.fields
    return record.put .here (← Cursor.take 10)
  | .upPlop => do
    let record := Record.zero upPlop.fields
    let record := record.put .here (← Cursor.takeFloat32)
    let record := record.put (.there .here) (← Cursor.takeInt16).toInt
    return record.put (.there (.there .here)) (← Cursor.take 12)
  | .upSpeedReport => do
    let record := Record.zero upSpeedReport.fields
    let record := record.put .here ((← Cursor.takeUInt8).toNat : Int)
    let record := record.put (.there .here) (← Cursor.takeInt8).toInt
    return record.put (.there (.there .here)) (← Cursor.takeInt16).toInt

end Kind

/-- Writes the frame of a message over a buffer of the frame's own length. -/
def Message.writeFrame (message : Message) (buffer : List UInt8) : Option (List UInt8) := do
  guard (buffer.length = message.wireLength)
  let bodyEnd := buffer.length - checksumLength
  guard (0 < buffer.length)
  let start : Cursor := ⟨(buffer.set 0 message.id).take bodyEnd, idLength⟩
  let (_, stop) ← (message.kind.pack message.record).run start
  guard (stop.position = bodyEnd)
  let sum := LittleEndian.encode16 (checksum stop.buffer)
  guard (sum.length = (buffer.drop bodyEnd).length)
  return stop.buffer ++ sum

/-- The frame of a message, written over zero bytes. -/
def Message.newFrame (message : Message) : Option (List UInt8) :=
  message.writeFrame (List.replicate message.wireLength 0)

/-- Writes the frame of a message over the start of a buffer, and returns the number of bytes
written. -/
def Message.writeInto (message : Message) (buffer : List UInt8) :
    Option (Except FrameError Nat × List UInt8) :=
  if buffer.length < message.wireLength then
    return (.error (.insufficientBuffer message.wireLength buffer.length), buffer)
  else do
    let frame ← message.writeFrame (buffer.take message.wireLength)
    return (.ok message.wireLength, frame ++ buffer.drop message.wireLength)

def Kind.readFrame (kind : Kind) (buffer : List UInt8) : Option (Except FrameError Message) :=
  if buffer.length < kind.wireLength then
    return .error (.insufficientBuffer kind.wireLength buffer.length)
  else do
    let frame := buffer.take kind.wireLength
    let bodyEnd := kind.wireLength - checksumLength
    let received := LittleEndian.decode16 [← frame[bodyEnd]?, ← frame[bodyEnd + 1]?]
    let computed := checksum (frame.take bodyEnd)
    if received ≠ computed then return .error (.checksumMismatch computed received)
    let found ← frame[0]?
    if found ≠ kind.id then return .error (.idMismatch kind.id found)
    let (record, stop) ← kind.unpack.run ⟨frame.take bodyEnd, idLength⟩
    guard (stop.position = bodyEnd)
    return .ok ⟨kind, record⟩

end Fieldbus
