import Fieldbus.Command.Arguments
import Fieldbus.Command.Run
import Fieldbus.Log.Filter

/-!
# A run of the tool

From the command line, the environment and the files to what is printed: the output of the command,
the log lines that the filter lets through, and the report of a failure.
-/

namespace Fieldbus

structure Environment where
  /-- A configuration file, in place of the option. -/
  config : Option String
  configHome : Option String
  home : Option String
  /-- A log filter that wins over option and settings. -/
  filter : Option String
deriving DecidableEq

structure Printed where
  status : Nat
  output : String
  /-- Lines for the operator's eyes. -/
  notes : List String
deriving DecidableEq

namespace Failure

/-- A cause below the line that announces it.  Its first line begins with `first`, and the others
are indented as far. -/
def causeText (first : String) (cause : String) : String :=
  first ++ ("\n" ++ "".pushn ' ' first.length).intercalate (Text.lines cause)

def numberedCause (index : Nat) (cause : String) : String :=
  causeText ("    " ++ Text.decimal index ++ ": ") cause

def report (failure : Failure) : String :=
  match failure.chain with
  | [] => "Error: "
  | [text] => "Error: " ++ text
  | [text, cause] => "Error: " ++ text ++ "\n\nCaused by:\n" ++ causeText "    " cause
  | text :: causes =>
    "Error: " ++ text ++ "\n\nCaused by:\n" ++ "\n".intercalate (causes.mapIdx numberedCause)

end Failure

namespace Session

def version : String := "ducklink 0.1.0"

def usage : String :=
  "Usage: ducklink [OPTIONS] <catalog|encode|decode|checksum|config>"

/-- The file that option or environment ask for.  An empty variable is refused, unless every level
of the command line has the option. -/
def explicitPath (request : Request) (environment : Environment) :
    Except Refusal (Option String) :=
  match environment.config with
  | none => .ok (request.innermost Given.config)
  | some path =>
    if path.isEmpty && request.levels.any (·.config.isNone) then .error .usage
    else .ok ((request.innermost Given.config).or (some path))

def override (request : Request) (settings : Settings) : Settings where
  level := Level.resolve (request.innermost Given.logLevel) settings.level
  format := (request.innermost Given.format).getD settings.format
  uppercase := settings.uppercase || request.levels.any Given.uppercase

/-- The settings that a command starts from.  A new configuration file can be made whatever the old
one holds. -/
def baseSettings (command : Command) (path : Option String) (files : Files) :
    Except Failure Settings :=
  match command, path with
  | .configInit _, _ => .ok .default
  | _, none => .ok .default
  | _, some path =>
    (Config.load files path).mapError fun e => ⟨some ("loading config from " ++ path), .config e⟩

def filter (environment : Environment) (settings : Settings) : Filter :=
  ((environment.filter.bind Filter.parse?)).getD (Filter.ofLevel settings.level)

def pathText (path : Option String) : String :=
  match path with
  | none => "None"
  | some path => "Some(" ++ String.ofList (Text.quote path.toList) ++ ")"

def resolved (path : Option String) : Event :=
  ⟨.debug, "ducklink", "configuration resolved", [("path", .text (pathText path))]⟩

/-- An output with the end of its last line; no output has no line. -/
def printedOutput (output : String) : String := if output.isEmpty then "" else output ++ "\n"

def perform (request : Request) (environment : Environment) (path : Option String)
    (settings : Settings) (files : Files) : Printed × Files :=
  let settings := override request settings
  let outcome := request.command.run ⟨settings, path⟩ files
  let events := (resolved path :: outcome.events).filter (filter environment settings).admits
  let notes := events.map Event.line
  match outcome.result with
  | .ok output => (⟨0, printedOutput output, notes⟩, outcome.files)
  | .error failure => (⟨1, "", notes ++ Text.lines failure.report⟩, outcome.files)

def configPath (request : Request) (environment : Environment) :
    Except Refusal (Option String) := do
  let explicit ← explicitPath request environment
  return (Config.resolve explicit environment.configHome environment.home).toOption

def serve (request : Request) (environment : Environment) (files : Files) :
    Except Refusal (Printed × Files) := do
  let path ← configPath request environment
  match baseSettings request.command path files with
  | .error failure => return (⟨1, "", Text.lines failure.report⟩, files)
  | .ok settings => return perform request environment path settings files

def run (words : List String) (environment : Environment) (files : Files) : Printed × Files :=
  match Request.read words >>= fun request => serve request environment files with
  | .ok result => result
  | .error .version => (⟨0, version ++ "\n", []⟩, files)
  | .error .usage => (⟨2, "", [usage]⟩, files)

end Session

end Fieldbus
