import Fieldbus.Text.Basic
import Fieldbus.Text.Quoted

/-!
# Log events

What happened on the way to a result: a level, the part of the program that speaks, a message and
named values.
-/

namespace Fieldbus

inductive Level where
  | error
  | warn
  | info
  | debug
  | trace
deriving DecidableEq

namespace Level

/-- Graver levels come first. -/
def rank : Level → Nat
  | .error => 1
  | .warn => 2
  | .info => 3
  | .debug => 4
  | .trace => 5

def name : Level → String
  | .error => "error"
  | .warn => "warn"
  | .info => "info"
  | .debug => "debug"
  | .trace => "trace"

def column : Level → String
  | .error => "ERROR"
  | .warn => " WARN"
  | .info => " INFO"
  | .debug => "DEBUG"
  | .trace => "TRACE"

def all : List Level := [.error, .warn, .info, .debug, .trace]

/-- The level with an exact lower-case name. -/
def ofName? (name : String) : Option Level := all.find? fun level => level.name = name

/-- The text that decides what is logged: the name of a level that was asked for, or else what the
settings say. -/
def resolve (asked : Option Level) (configured : String) : String :=
  match asked with
  | some level => level.name
  | none => configured

end Level

/-- A value that an event carries: an integer, a string that lines show in quotes, or text that
they show as it is. -/
inductive Detail where
  | int (n : Int)
  | str (s : String)
  | text (s : String)
deriving DecidableEq

def Detail.display : Detail → String
  | .int n => Text.decimal n
  | .str s => String.ofList (Text.quote s.toList)
  | .text s => s

structure Event where
  level : Level
  target : String
  message : String
  details : List (String × Detail)
deriving DecidableEq

def Event.line (event : Event) : String :=
  event.details.foldl (fun line (name, detail) => line ++ " " ++ name ++ "=" ++ detail.display)
    (event.level.column ++ " " ++ event.message)

end Fieldbus
