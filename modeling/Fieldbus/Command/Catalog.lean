import Fieldbus.Command.Basic

/-!
# Listing the catalog

Kinds with their fields, and where each field stands in a frame.
-/

namespace Fieldbus

structure Placement where
  field : Field
  offset : Nat

/-- The fields of a kind with their places, the id counted. -/
def Kind.placements (kind : Kind) : List Placement :=
  kind.fields.mapIdx fun i field => ⟨field, idLength + Field.offset kind.fields i⟩

namespace Command

def placementLine (width : Nat) (place : Placement) : String :=
  "  @" ++ Text.pad 3 (Text.decimal place.offset) ++ " " ++ Text.pad width place.field.name ++
    "  " ++ place.field.type.display ++ "\n"

def kindText (kind : Kind) : String :=
  let width := Field.nameWidth kind.fields
  kind.heading ++ "\n" ++ String.join (kind.placements.map (placementLine width))

/-- Kinds with a blank line between them. -/
def catalogText (kinds : List Kind) : String :=
  String.ofList (Text.trimEnd ("\n".intercalate (kinds.map kindText)).toList)

def placementJson (place : Placement) : Json :=
  .obj [("name", .str place.field.name), ("type", .str place.field.type.display),
    ("offset", .int place.offset), ("width", .int place.field.type.width)]

def kindJson (kind : Kind) : Json :=
  .obj [("id", .int kind.id.toNat), ("name", .str kind.name), ("wire_len", .int kind.wireLength),
    ("fields", .arr (kind.placements.map placementJson))]

def runCatalog (settings : Settings) (kind : Option String) : Except Failure String := do
  let kinds ← match kind with
    | none => pure Kind.all
    | some raw => match Kind.parse raw with
      | .ok kind => pure [kind]
      | .error cause => throw (cause : Failure)
  match settings.format with
  | .text => return catalogText kinds
  | .json => return (Json.arr (kinds.map kindJson)).pretty

end Command

end Fieldbus
