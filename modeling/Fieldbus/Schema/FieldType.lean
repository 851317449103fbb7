import Fieldbus.Binary32.Reading
import Fieldbus.Schema.Bounds
import Fieldbus.Schema.FixedString
import Fieldbus.Schema.Value
import Fieldbus.Text.Basic
import Fieldbus.Wire

/-!
# Field types

A field type fixes how many bytes a field takes on the wire, what it stores, and how input of any
size is brought into its range.  Every write goes through `store`, also that of a received frame.
-/

namespace Fieldbus

inductive FieldError where
  | unknownField (kind field : String)
  | typeMismatch (field : String) (expected found : Shape)
  | invalidValue (expected value reason : String)
deriving DecidableEq

def FieldError.message : FieldError → String
  | .unknownField kind field => kind ++ " has no field named `" ++ field ++ "`"
  | .typeMismatch field expected found =>
    "field `" ++ field ++ "` expects " ++ expected.name ++ ", got " ++ found.name
  | .invalidValue expected value reason =>
    "invalid " ++ expected ++ " value `" ++ value ++ "`: " ++ reason

inductive FieldType where
  | int8 (range : Bounds Int8)
  | int16 (range : Bounds Int16)
  | uint8 (range : Bounds UInt8)
  | float32 (range : Bounds Binary32)
  | chars (capacity : Nat)
deriving DecidableEq

/-- Input for a field before any check: a number of either sort, or bytes. -/
inductive Datum where
  | int (n : Int)
  | float (x : Binary32)
  | bytes (bytes : List UInt8)
deriving DecidableEq

namespace FieldType

/-- What a message holds for a field of this type. -/
@[reducible] def Cell : FieldType → Type
  | .int8 _ => Int8
  | .int16 _ => Int16
  | .uint8 _ => UInt8
  | .float32 _ => Binary32
  | .chars capacity => FixedString capacity

/-- What a field of this type can be set to: any integer, any float, or any bytes. -/
@[reducible] def Input : FieldType → Type
  | .int8 _ | .int16 _ | .uint8 _ => Int
  | .float32 _ => Binary32
  | .chars _ => List UInt8

def width : FieldType → Nat
  | .int8 _ | .uint8 _ => 1
  | .int16 _ => 2
  | .float32 _ => 4
  | .chars capacity => capacity

def name : FieldType → String
  | .int8 _ => "i8"
  | .int16 _ => "i16"
  | .uint8 _ => "u8"
  | .float32 _ => "f32"
  | .chars _ => "chars"

def shape : FieldType → Shape
  | .int8 _ | .int16 _ | .uint8 _ => .integer
  | .float32 _ => .float
  | .chars _ => .string

/-- A bound of a float range; large ones are written with an exponent. -/
def boundText (x : Binary32) : String :=
  let million : Nat := 0x49742400
  String.ofList
    (if million ≤ x.magnitude ∧ x.isNaN = false then x.text .scientific else x.text .plain)

def rangeText (min max : String) : String := "[" ++ min ++ ", " ++ max ++ "]"

def display : FieldType → String
  | .int8 range => "i8 " ++ rangeText (Text.decimal range.min.toInt) (Text.decimal range.max.toInt)
  | .int16 range =>
    "i16 " ++ rangeText (Text.decimal range.min.toInt) (Text.decimal range.max.toInt)
  | .uint8 range => "u8 " ++ rangeText (Text.decimal range.min.toNat) (Text.decimal range.max.toNat)
  | .float32 range => "f32 " ++ rangeText (boundText range.min) (boundText range.max)
  | .chars capacity => "chars[" ++ Text.decimal capacity ++ "]"

/-- Reads typed text as a value for a field of this type.  Numbers may have blanks around them and
are not yet brought into range; strings are taken as they are. -/
def parse (type : FieldType) (raw : String) : Except FieldError FieldValue :=
  let text := Text.trim raw.toList
  match type with
  | .chars _ => .ok (.chars raw)
  | .float32 _ =>
    match Binary32.read text with
    | .ok x => .ok (.float x)
    | .error fault => .error (.invalidValue type.name raw fault.message)
  | .int8 _ | .int16 _ | .uint8 _ =>
    match Text.readInt64 text with
    | .ok n => .ok (.int n)
    | .error fault => .error (.invalidValue type.name raw fault.message)

def zero : (type : FieldType) → type.Cell
  | .int8 _ => (0 : Int8)
  | .int16 _ => (0 : Int16)
  | .uint8 _ => (0 : UInt8)
  | .float32 _ => Binary32.zero
  | .chars capacity => FixedString.empty capacity

/-- Brings input into range: numbers are clamped, strings are cut. -/
def store : (type : FieldType) → type.Input → type.Cell
  | .int8 range, n => range.applyWide n
  | .int16 range, n => range.applyWide n
  | .uint8 range, n => range.applyWide n
  | .float32 range, x => range.apply x
  | .chars capacity, bytes => FixedString.ofBytes capacity bytes

def truncates : (type : FieldType) → type.Input → Option Bool
  | .chars capacity, bytes => some (FixedString.overflows capacity bytes)
  | .int8 _, _ | .int16 _, _ | .uint8 _, _ | .float32 _, _ => none

/-- Sets a stored field in place: a number gives way to the clamped input, and bytes are written
over a string. Tells whether a string was cut. -/
def overwrite : (type : FieldType) → type.Cell → type.Input → type.Cell × Option Bool
  | .int8 range, _, n => (range.applyWide n, none)
  | .int16 range, _, n => (range.applyWide n, none)
  | .uint8 range, _, n => (range.applyWide n, none)
  | .float32 range, _, x => (range.apply x, none)
  | .chars _, s, bytes =>
    let (written, cut) := FixedString.write s bytes
    (written, some cut)

def encode : (type : FieldType) → type.Cell → List UInt8
  | .int8 _, v => [Int8.toUInt8 v]
  | .int16 _, v => LittleEndian.encode16 (Int16.toUInt16 v)
  | .uint8 _, v => [v]
  | .float32 _, x => LittleEndian.encode32 (Binary32.bits x)
  | .chars _, s => FixedString.raw s

/-- The input that the bytes of a field's window stand for. -/
def decode : (type : FieldType) → List UInt8 → type.Input
  | .int8 _, bytes => (bytes.getD 0 0).toInt8.toInt
  | .int16 _, bytes => (LittleEndian.decode16 bytes).toInt16.toInt
  | .uint8 _, bytes => ((bytes.getD 0 0).toNat : Int)
  | .float32 _, bytes => (⟨LittleEndian.decode32 bytes⟩ : Binary32)
  | .chars _, bytes => bytes

def value : (type : FieldType) → type.Cell → FieldValue
  | .int8 _, v => .int (Int8.toInt v)
  | .int16 _, v => .int (Int16.toInt v)
  | .uint8 _, v => .int (UInt8.toNat v)
  | .float32 _, x => .float x
  | .chars _, s => .chars (FixedString.lossy s)

/-- The bare content of a stored field: a number, or the bytes of a string. -/
def datum : (type : FieldType) → type.Cell → Datum
  | .int8 _, v => .int (Int8.toInt v)
  | .int16 _, v => .int (Int16.toInt v)
  | .uint8 _, v => .int (UInt8.toNat v)
  | .float32 _, x => .float x
  | .chars _, s => .bytes (FixedString.content s)

/-- Takes a datum as input for a field, if it is of the field's own sort. -/
def input? : (type : FieldType) → Datum → Option type.Input
  | .int8 _, .int n => some n
  | .int16 _, .int n => some n
  | .uint8 _, .int n => some n
  | .float32 _, .float x => some x
  | .chars _, .bytes bytes => some bytes
  | _, _ => none

/-- Takes a value as input for a field of the given name.  A float field takes an integer as the
nearest float. -/
def accept (field : String) : (type : FieldType) → FieldValue → Except FieldError type.Input
  | .int8 _, .int n => .ok n
  | .int16 _, .int n => .ok n
  | .uint8 _, .int n => .ok n
  | .float32 _, .int n => .ok (Binary32.ofInt n)
  | .float32 _, .float x => .ok x
  | .chars _, .chars text => .ok (Utf8.encode text.toList)
  | type, value => .error (.typeMismatch field type.shape value.shape)

def same : (type : FieldType) → type.Cell → type.Cell → Bool
  | .int8 _, v, w => decide (v = w)
  | .int16 _, v, w => decide (v = w)
  | .uint8 _, v, w => decide (v = w)
  | .float32 _, x, y => Binary32.same x y
  | .chars _, s, t => decide (s = t)

def toJson (type : FieldType) (cell : type.Cell) : Json := (type.value cell).toJson

def inspect : (type : FieldType) → type.Cell → String
  | .int8 _, v => Text.decimal (Int8.toInt v)
  | .int16 _, v => Text.decimal (Int16.toInt v)
  | .uint8 _, v => Text.decimal (UInt8.toNat v)
  | .float32 _, x => String.ofList (Binary32.text .pointed16 x)
  | .chars _, s => FixedString.inspect s

end FieldType

end Fieldbus
