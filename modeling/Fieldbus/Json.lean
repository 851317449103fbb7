import Fieldbus.Binary32.Style
import Fieldbus.Schema.Bounds
import Fieldbus.Text.Hex
import Fieldbus.Text.Basic

/-!
# JSON documents

Values with ordered members, and two ways to print them: on one line without blanks, or indented
by two columns for each level.
-/

namespace Fieldbus

inductive Json where
  | null
  | bool (b : Bool)
  | int (n : Int)
  | float (x : Binary32)
  | str (text : String)
  | arr (items : List Json)
  | obj (members : List (String × Json))

namespace Json

/-- A character inside a JSON string.  Only quotes, backslashes and controls are escaped. -/
def escape (c : Char) : List Char :=
  if c = '\x22' then ['\\', c]
  else if c = '\\' then ['\\', c]
  else if c = '\x08' then ['\\', 'b']
  else if c = '\x0c' then ['\\', 'f']
  else if c = '\n' then ['\\', 'n']
  else if c = '\r' then ['\\', 'r']
  else if c = '\t' then ['\\', 't']
  else if c.toNat < 0x20 then ['\\', 'u', '0', '0'] ++ Hex.pair false (UInt8.ofNat c.toNat)
  else [c]

def quote (text : String) : String :=
  String.ofList ('\x22' :: text.toList.flatMap escape ++ ['\x22'])

/-- The text of a float; what is not finite has none. -/
def floatText (x : Binary32) : String :=
  if x.isFinite then String.ofList (x.text .interchange) else "null"

def scalarText : Json → String
  | .null => "null"
  | .bool b => if b then "true" else "false"
  | .int n => Text.decimal n
  | .float x => floatText x
  | .str text => quote text
  | .arr _ => "[]"
  | .obj _ => "\x7b\x7d"

mutual

def compact : Json → String
  | .arr items => "[" ++ ",".intercalate (compactItems items) ++ "]"
  | .obj members => "\x7b" ++ ",".intercalate (compactMembers members) ++ "\x7d"
  | value => value.scalarText

def compactItems : List Json → List String
  | [] => []
  | item :: items => item.compact :: compactItems items

def compactMembers : List (String × Json) → List String
  | [] => []
  | (name, value) :: members => (quote name ++ ":" ++ value.compact) :: compactMembers members

end

def newline (level : Nat) : String := "\n" ++ "".pushn ' ' (2 * level)

mutual

/-- A value over several lines, whose own line is indented by `level`. -/
def prettyAt (level : Nat) : Json → String
  | .arr (item :: items) =>
    "[" ++ ",".intercalate (prettyItems (level + 1) (item :: items)) ++ newline level ++ "]"
  | .obj (member :: members) =>
    "\x7b" ++ ",".intercalate (prettyMembers (level + 1) (member :: members)) ++ newline level ++
      "\x7d"
  | value => value.scalarText

def prettyItems (level : Nat) : List Json → List String
  | [] => []
  | item :: items => (newline level ++ item.prettyAt level) :: prettyItems level items

def prettyMembers (level : Nat) : List (String × Json) → List String
  | [] => []
  | (name, value) :: members =>
    (newline level ++ quote name ++ ": " ++ value.prettyAt level) :: prettyMembers level members

end

def pretty (value : Json) : String := value.prettyAt 0

end Json

def Bounds.toJson {α : Type} (toJson : α → Json) (range : Bounds α) : Json :=
  .obj [("min", toJson range.min), ("max", toJson range.max)]

end Fieldbus
