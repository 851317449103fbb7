import Fieldbus.Command.Basic

/-!
# The command line

Words of a command line are read from left to right at nested levels: the tool itself, a command,
and for the configuration a command of its own.  The options for output and configuration may stand
at every level, once at each; the innermost one counts.
-/

namespace Fieldbus

inductive Opt where
  | config
  | format
  | logLevel
  | uppercase
  | version
  | assign
  | id
  | force
deriving DecidableEq

namespace Opt

def name : Opt → String
  | .config => "config"
  | .format => "format"
  | .logLevel => "log-level"
  | .uppercase => "uppercase"
  | .version => "version"
  | .assign => "set"
  | .id => "id"
  | .force => "force"

def letter? : Opt → Option Char
  | .version => some 'V'
  | .assign => some 's'
  | _ => none

def takesValue : Opt → Bool
  | .uppercase | .version | .force => false
  | _ => true

def everywhere : List Opt := [.config, .format, .logLevel, .uppercase]

end Opt

structure Given where
  config : Option String
  format : Option OutputFormat
  logLevel : Option Level
  uppercase : Bool
  assignments : List Assignment
  id : Option UInt8
  force : Bool
  words : List String

namespace Given

def none : Given := ⟨.none, .none, .none, false, [], .none, false, []⟩

def once {α : Type} (old new : Option α) : Option (Option α) :=
  match old, new with
  | .none, some value => some (some value)
  | _, _ => .none

def byte? (text : String) : Option UInt8 :=
  match Text.readInt64 text.toList with
  | .ok n => if 0 ≤ n ∧ n ≤ 255 then some (UInt8.ofInt n) else .none
  | .error _ => .none

/-- A path as the value of an option; it must not be empty. -/
def path? (text : String) : Option String := if text.isEmpty then .none else some text

/-- Takes an option, unless its value is bad or it was given before.  Only assignments may be
repeated. -/
def take (given : Given) (opt : Opt) (value : String) : Option Given :=
  match opt with
  | .config => (once given.config (path? value)).map fun v => { given with config := v }
  | .format => (once given.format (OutputFormat.ofName? value)).map fun v =>
    { given with format := v }
  | .logLevel => (once given.logLevel (Level.ofName? value)).map fun v =>
    { given with logLevel := v }
  | .uppercase => if given.uppercase then .none else some { given with uppercase := true }
  | .assign => (Assignment.parse? value).map fun assignment =>
    { given with assignments := given.assignments ++ [assignment] }
  | .id => (once given.id (byte? value)).map fun v => { given with id := v }
  | .force => if given.force then .none else some { given with force := true }
  | .version => some given

def addWords (given : Given) (words : List String) : Given :=
  { given with words := given.words ++ words }

end Given

inductive Refusal where
  | usage
  | version
deriving DecidableEq

/-- One level of the command line: its options, and the commands below it if there are any. -/
structure Scope where
  options : List Opt
  commands : List String

namespace Scope

/-- Whether a word is read as an option.  A single hyphen is not. -/
def isHyphenated (word : String) : Bool :=
  match word.toList with
  | '-' :: _ :: _ => true
  | _ => false

/-- A word after its two hyphens: the name, and the value behind an equals sign. -/
def splitLong (text : List Char) : String × Option String :=
  (String.ofList (text.takeWhile (· ≠ '=')),
    match text.dropWhile (· ≠ '=') with
    | [] => none
    | _ :: value => some (String.ofList value))

/-- The value that follows an option's letter in the same word, with or without an equals sign. -/
def attached : List Char → Option String
  | [] => none
  | '=' :: value => some (String.ofList value)
  | value => some (String.ofList value)

def option? (scope : Scope) (word : String) : Option (Opt × Option String) :=
  match word.toList with
  | '-' :: '-' :: text =>
    let (name, value) := splitLong text
    match scope.options.find? fun opt => opt.name = name with
    | some opt => if value.isSome && !opt.takesValue then none else some (opt, value)
    | none => none
  | '-' :: letter :: text =>
    match scope.options.find? fun opt => opt.letter? = some letter with
    | some opt => some (opt, if opt.takesValue then attached text else none)
    | none => none
  | _ => none

/-- What a level holds, and the command below it with the words after that. -/
abbrev Reading := Given × Option (String × List String)

/-- Reads the words of one level.  Two hyphens end the options. -/
def read (scope : Scope) : Given → List String → Except Refusal Reading
  | given, [] => .ok (given, none)
  | given, word :: rest =>
    if word = "--" then
      if scope.commands.isEmpty || rest.isEmpty then .ok (given.addWords rest, none)
      else .error .usage
    else if isHyphenated word then
      match scope.option? word with
      | none => .error .usage
      | some (.version, _) => .error .version
      | some (opt, some value) =>
        match given.take opt value with
        | none => .error .usage
        | some given => scope.read given rest
      | some (opt, none) =>
        if opt.takesValue then
          match rest with
          | [] => .error .usage
          | value :: rest =>
            if isHyphenated value then .error .usage
            else match given.take opt value with
              | none => .error .usage
              | some given => scope.read given rest
        else match given.take opt "" with
          | none => .error .usage
          | some given => scope.read given rest
    else if scope.commands.isEmpty then scope.read (given.addWords [word]) rest
    else if scope.commands.contains word then .ok (given, some (word, rest))
    else .error .usage

def top : Scope :=
  ⟨.version :: Opt.everywhere, ["catalog", "encode", "decode", "checksum", "config"]⟩

def config : Scope := ⟨Opt.everywhere, ["init", "show", "path"]⟩

def leaf (options : List Opt) : Scope := ⟨options ++ Opt.everywhere, []⟩

end Scope

/-- A command, and the levels of the command line that ask for it, the outermost first. -/
structure Request where
  command : Command
  levels : List Given

namespace Request

def readLeaf (name : String) (words : List String) : Except Refusal Request := do
  let options : List Opt := match name with
    | "encode" => [.assign]
    | "decode" => [.id]
    | "init" => [.force]
    | _ => []
  let (given, _) ← (Scope.leaf options).read .none words
  match name, given.words with
  | "catalog", [] => return ⟨.catalog none, [given]⟩
  | "catalog", [kind] => return ⟨.catalog (some kind), [given]⟩
  | "encode", [kind] => return ⟨.encode kind given.assignments, [given]⟩
  | "decode", [hex] => return ⟨.decode hex given.id, [given]⟩
  | "checksum", [hex] => return ⟨.checksum hex, [given]⟩
  | "init", [] => return ⟨.configInit given.force, [given]⟩
  | "show", [] => return ⟨.configShow, [given]⟩
  | "path", [] => return ⟨.configPath, [given]⟩
  | _, _ => throw .usage

def readCommand (name : String) (words : List String) : Except Refusal Request := do
  if name ≠ "config" then readLeaf name words
  else match ← Scope.config.read .none words with
    | (_, none) => throw .usage
    | (given, some (name, words)) =>
      let request ← readLeaf name words
      return { request with levels := given :: request.levels }

def read (words : List String) : Except Refusal Request := do
  match ← Scope.top.read .none words with
  | (_, none) => throw .usage
  | (given, some (name, words)) =>
    let request ← readCommand name words
    return { request with levels := given :: request.levels }

def innermost {α : Type} (request : Request) (f : Given → Option α) : Option α :=
  request.levels.foldl (fun value given => (f given).or value) none

end Request

end Fieldbus
