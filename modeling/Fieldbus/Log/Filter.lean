import Fieldbus.Log.Event
import Fieldbus.Text.Alphanumeric
import Fieldbus.Text.Basic

/-!
# Log filters

A filter is written as directives between commas.  A directive names a level, a target, or a target
and its level; among the directives whose target begins an event's target the longest decides, and
an event that no directive covers is dropped.
-/

namespace Fieldbus

/-- A threshold for the events of the targets that begin with `target`; no level lets nothing
through. -/
structure Directive where
  target : Option String
  level : Option Level
deriving DecidableEq

namespace Directive

def numbered? : Int → Option (Option Level)
  | 0 => some none
  | 1 => some (some .error)
  | 2 => some (some .warn)
  | 3 => some (some .info)
  | 4 => some (some .debug)
  | 5 => some (some .trace)
  | _ => none

/-- The threshold with a name, in any case; `off` lets nothing through. -/
def named? (word : List Char) : Option (Option Level) :=
  let lower := String.ofList (word.map Char.toLower)
  if lower = "off" then some none else (Level.ofName? lower).map some

def level? (word : List Char) : Option (Option Level) :=
  match Text.readInteger 0 18446744073709551615 word with
  | .ok n => numbered? n
  | .error _ => named? word

def isInitial (c : Char) : Bool := Text.isAlphanumeric c || c == '-' || c == ':' || c == '_'

/-- Reads a directive.  A target without level lets everything through.  Blanks belong to the target
or to the level that they stand beside, and none may stand before a target with a level. -/
def parse? (text : List Char) : Option Directive :=
  match Text.trim text with
  | [] => none
  | first :: _ =>
    if !isInitial first || text.contains '[' then none
    else
      let head := text.takeWhile (· ≠ '=')
      match text.dropWhile (· ≠ '=') with
      | [] => match level? head with
        | some level => some ⟨none, level⟩
        | none => some ⟨some (String.ofList head), some .trace⟩
      | _ :: word =>
        if text.head? ≠ some first then none
        else if word.isEmpty then some ⟨some (String.ofList head), some .trace⟩
        else (level? word).map fun level => ⟨some (String.ofList head), level⟩

/-- Whether a directive comes before another: the longer target in bytes, then the greater one, and
no target at the end. -/
def precedes (left right : Directive) : Bool :=
  match left.target, right.target with
  | none, _ => false
  | some _, none => true
  | some l, some r =>
    decide (r.utf8ByteSize < l.utf8ByteSize) || (l.utf8ByteSize == r.utf8ByteSize && decide (r < l))

def covers (directive : Directive) (event : Event) : Bool :=
  match directive.target with
  | none => true
  | some target => target.toList.isPrefixOf event.target.toList

def admits (directive : Directive) (event : Event) : Bool :=
  match directive.level with
  | none => false
  | some level => decide (event.level.rank ≤ level.rank)

def display (directive : Directive) : String :=
  let level := (directive.level.map Level.name).getD "off"
  match directive.target with
  | none => level
  | some target => target ++ "=" ++ level

end Directive

/-- A log filter: directives for different targets, in the order of `Directive.precedes`. -/
abbrev Filter := List Directive

namespace Filter

/-- A filter with one more directive, which takes the place of one for the same target. -/
def add (new : Directive) : Filter → Filter
  | [] => [new]
  | directive :: rest =>
    if new.target = directive.target then new :: rest
    else if new.precedes directive then new :: directive :: rest
    else directive :: add new rest

/-- Reads a filter; empty directives count for nothing. -/
def parse? (text : String) : Option Filter := do
  let parts := (Text.split ',' text.toList).filter fun part => !part.isEmpty
  let directives ← parts.mapM Directive.parse?
  return directives.foldl (fun filter directive => add directive filter) []

/-- The filter that a level text asks for; `info` if the text is no filter. -/
def ofLevel (text : String) : Filter := (parse? text).getD [⟨none, some .info⟩]

/-- Whether a filter lets an event through.  The first directive that covers it decides. -/
def admits (filter : Filter) (event : Event) : Bool :=
  match filter.find? (·.covers event) with
  | none => false
  | some directive => directive.admits event

def display (filter : Filter) : String := ",".intercalate (filter.map Directive.display)

end Filter

end Fieldbus
