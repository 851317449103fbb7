import Fieldbus.Json
import Fieldbus.Text.Quoted

/-!
# Field values

The value of a field apart from any message: integers of every width are one shape, and text is
what a string holds before its terminator.
-/

namespace Fieldbus

inductive Shape where
  | integer
  | float
  | string
deriving DecidableEq

def Shape.name : Shape → String
  | .integer => "integer"
  | .float => "float"
  | .string => "string"

inductive FieldValue where
  | int (n : Int)
  | float (x : Binary32)
  | chars (text : String)
deriving DecidableEq

namespace FieldValue

def shape : FieldValue → Shape
  | .int _ => .integer
  | .float _ => .float
  | .chars _ => .string

/-- Equality as values, floats compared as numbers. -/
def same : FieldValue → FieldValue → Bool
  | .int m, .int n => decide (m = n)
  | .float x, .float y => x.same y
  | .chars s, .chars t => decide (s = t)
  | _, _ => false

/-- What an operator reads: plain numbers, and text in quotes. -/
def display : FieldValue → String
  | .int n => Text.decimal n
  | .float x => String.ofList (x.text .plain)
  | .chars text => String.ofList (Text.quote text.toList)

def inspect : FieldValue → String
  | .int n => "Int(" ++ Text.decimal n ++ ")"
  | .float x => "Float(" ++ String.ofList (x.text .pointed16) ++ ")"
  | .chars text => "Chars(" ++ String.ofList (Text.quote text.toList) ++ ")"

def toJson : FieldValue → Json
  | .int n => .int n
  | .float x => .float x
  | .chars text => .str text

end FieldValue

end Fieldbus
