/-!
# TOML tables

Values of a TOML document, and the rules by which lines add to its tables: a key is defined once, a
header opens a table once, and dotted keys add only to tables that dotted keys made.
-/

namespace Fieldbus.Toml

/-- How a table came about, which decides what may be added to it. -/
inductive Origin where
  | header
  /-- The path of a longer header. -/
  | implicit
  | dotted
  /-- Braces; nothing may be added. -/
  | inline
deriving DecidableEq

/-- A TOML value.  Floats and dates are recognised without their values. -/
inductive Value where
  | string (text : String)
  | integer (n : Int)
  | float
  | boolean (b : Bool)
  | datetime
  | array (items : List Value)
  | table (origin : Origin) (entries : List (String × Value))
  | tables (items : List Value)

/-- Keys and values in the order of their definition. -/
abbrev Table := List (String × Value)

namespace Table

def find? (key : String) : Table → Option Value
  | [] => none
  | (k, value) :: rest => if k = key then some value else find? key rest

/-- Changes or adds the value of a key, unless `f` refuses. -/
def alter (key : String) (f : Option Value → Option Value) : Table → Option Table
  | [] => (f none).map fun value => [(key, value)]
  | (k, value) :: rest =>
    if k = key then (f (some value)).map fun value => (k, value) :: rest
    else (alter key f rest).map ((k, value) :: ·)

def alterLast (f : Table → Option Table) (items : List Value) : Option Value :=
  match items.getLast? with
  | some (.table origin entries) =>
    (f entries).map fun entries => .tables (items.dropLast ++ [.table origin entries])
  | _ => none

/-- Changes the table that a path of header keys leads to, making the tables on the way. -/
def descend (f : Table → Option Table) : List String → Table → Option Table
  | [], table => f table
  | key :: path, table => table.alter key fun
    | none => (descend f path []).map (.table .implicit)
    | some (.table .inline _) => none
    | some (.table origin entries) => (descend f path entries).map (.table origin)
    | some (.tables items) => alterLast (descend f path) items
    | some _ => none

/-- Opens the table of a header.  Only a table that longer headers made may exist already. -/
def openHeader (key : String) (table : Table) : Option Table :=
  table.alter key fun
    | none => some (.table .header [])
    | some (.table .implicit entries) => some (.table .header entries)
    | some _ => none

def openRepeated (key : String) (table : Table) : Option Table :=
  table.alter key fun
    | none => some (.tables [.table .header []])
    | some (.tables items) => some (.tables (items ++ [.table .header []]))
    | some _ => none

/-- Defines a key.  The tables of a dotted key are new or made by other dotted keys. -/
def define (value : Value) : List String → Table → Option Table
  | [], _ => none
  | [key], table => table.alter key fun
    | none => some value
    | some _ => none
  | key :: next :: path, table => table.alter key fun
    | none => (define value (next :: path) []).map (.table .dotted)
    | some (.table .dotted entries) => (define value (next :: path) entries).map (.table .dotted)
    | some (.table .implicit entries) =>
      if path.isEmpty then none
      else (define value (next :: path) entries).map (.table .implicit)
    | some (.tables items) =>
      if path.isEmpty then none else alterLast (define value (next :: path)) items
    | some _ => none

end Table

end Fieldbus.Toml
