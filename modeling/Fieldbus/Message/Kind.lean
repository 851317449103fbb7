import Fieldbus.Schema.Field

/-!
# The message catalog

Four kinds of messages, each with a fixed id, name and layout.
-/

namespace Fieldbus

inductive Kind where
  | downToto
  | interMcuProut
  | upPlop
  | upSpeedReport
deriving DecidableEq

namespace Kind

def all : List Kind := [.downToto, .interMcuProut, .upPlop, .upSpeedReport]

def id : Kind → UInt8
  | .downToto => 0
  | .interMcuProut => 1
  | .upPlop => 2
  | .upSpeedReport => 3

def name : Kind → String
  | .downToto => "DownToto"
  | .interMcuProut => "InterMCUProut"
  | .upPlop => "UpPlop"
  | .upSpeedReport => "UpSpeedReport"

/-- The name of a kind in diagnostic forms. -/
def tag : Kind → String
  | .interMcuProut => "InterMcuProut"
  | kind => kind.name

def anyFloat : Bounds Binary32 := ⟨.lowest, .greatest⟩

def anyInt16 : Bounds Int16 := ⟨-32768, 32767⟩

def fields : Kind → List Field
  | .downToto => [
      ⟨"decimal", .float32 anyFloat⟩,
      ⟨"entier", .int16 anyInt16⟩,
      ⟨"name", .chars 12⟩,
      ⟨"vx", .float32 anyFloat⟩]
  | .interMcuProut => [⟨"odeur", .chars 10⟩]
  | .upPlop => [
      ⟨"decimal", .float32 ⟨⟨0xC1F00000⟩, ⟨0x447A0000⟩⟩⟩,
      ⟨"entier", .int16 anyInt16⟩,
      ⟨"name", .chars 12⟩]
  | .upSpeedReport => [
      ⟨"vtheta", .uint8 ⟨0, 10⟩⟩,
      ⟨"vx", .int8 ⟨-128, 127⟩⟩,
      ⟨"vy", .int16 ⟨-2, 10⟩⟩]

def wireLength (kind : Kind) : Nat := Field.wireLength kind.fields

def ofId? (id : UInt8) : Option Kind := all.find? fun kind => kind.id = id

/-- Equality of texts up to the case of ASCII letters. -/
def sameName (s t : String) : Bool := decide (s.toList.map Char.toLower = t.toList.map Char.toLower)

/-- The kind with a catalog name, in any case. -/
def ofName? (name : String) : Option Kind := all.find? fun kind => sameName kind.name name

def heading (kind : Kind) : String :=
  kind.name ++ " (id " ++ Text.decimal kind.id.toNat ++ ", " ++ Text.decimal kind.wireLength ++
    " bytes)"

end Kind

end Fieldbus
