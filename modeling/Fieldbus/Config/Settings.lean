import Fieldbus.Json
import Fieldbus.Toml.Document
import Fieldbus.Toml.Writer

/-!
# Settings

What the configuration file of the tool says, with a default for everything it leaves out, and the
text of such a file.
-/

namespace Fieldbus

inductive OutputFormat where
  | text
  | json
deriving DecidableEq

def OutputFormat.name : OutputFormat → String
  | .text => "text"
  | .json => "json"

def OutputFormat.ofName? (name : String) : Option OutputFormat :=
  [OutputFormat.text, .json].find? fun format => format.name = name

structure Settings where
  /-- A log filter. -/
  level : String
  format : OutputFormat
  uppercase : Bool
deriving DecidableEq

namespace Settings

def default : Settings := ⟨"info", .text, false⟩

def toToml (settings : Settings) : String :=
  "[logging]\nlevel = " ++ String.ofList (Toml.write settings.level.toList) ++
    "\n\n[output]\nformat = \"" ++ settings.format.name ++ "\"\nhex_uppercase = " ++
    (if settings.uppercase then "true" else "false") ++ "\n"

def toJson (settings : Settings) : Json :=
  .obj [("logging", .obj [("level", .str settings.level)]),
    ("output", .obj [("format", .str settings.format.name),
      ("hex_uppercase", .bool settings.uppercase)])]

/-- The members of a section in the order of its keys.  A section is a table, or an array of its
members in order; a date passes for a table without any of them. -/
def section? (keys : List String) : Toml.Value → Option (List (Option Toml.Value))
  | .table _ entries => some (keys.map fun key => Toml.Table.find? key entries)
  | .array items | .tables items => some (keys.mapIdx fun i _ => items[i]?)
  | .datetime => some (keys.map fun _ => none)
  | _ => none

/-- The members of a section that may be missing as a whole. -/
def sectionOf? (keys : List String) (table : Toml.Table) (name : String) :
    Option (List (Option Toml.Value)) :=
  match table.find? name with
  | none => some (keys.map fun _ => none)
  | some value => section? keys value

def level? : Option Toml.Value → Option String
  | none => some default.level
  | some (.string text) => some text
  | some _ => none

/-- A format is its name, or a table with that name as its only key and nothing in it. -/
def format? : Option Toml.Value → Option OutputFormat
  | none => some default.format
  | some (.string name) => OutputFormat.ofName? name
  | some (.table _ [(name, .table _ [])]) => OutputFormat.ofName? name
  | some (.table _ [(name, .array [])]) => OutputFormat.ofName? name
  | some _ => none

def uppercase? : Option Toml.Value → Option Bool
  | none => some default.uppercase
  | some (.boolean b) => some b
  | some _ => none

/-- The settings of a document.  Unknown keys are ignored. -/
def ofTable? (table : Toml.Table) : Option Settings := do
  let logging ← sectionOf? ["level"] table "logging"
  let output ← sectionOf? ["format", "hex_uppercase"] table "output"
  let level ← level? (logging.getD 0 none)
  let format ← format? (output.getD 0 none)
  let uppercase ← uppercase? (output.getD 1 none)
  return ⟨level, format, uppercase⟩

end Settings

end Fieldbus
