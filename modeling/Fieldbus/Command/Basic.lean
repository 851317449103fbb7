import Fieldbus.Config.Store
import Fieldbus.Message.Reception

/-!
# Commands and their results

What an operator can ask for, in which context a command runs, and how it fails.
-/

namespace Fieldbus

structure Assignment where
  field : String
  value : String
deriving DecidableEq

namespace Assignment

/-- Splits at the first equals sign.  The field must not be blank; the value is taken as it is. -/
def parse? (raw : String) : Option Assignment :=
  let field := Text.trim (raw.toList.takeWhile (· ≠ '='))
  match raw.toList.dropWhile (· ≠ '=') with
  | [] => none
  | _ :: value =>
    if field.isEmpty then none else some ⟨String.ofList field, String.ofList value⟩

def rejection (raw : String) : String := "expected FIELD=VALUE, got `" ++ raw ++ "`"

end Assignment

inductive Command where
  | catalog (kind : Option String)
  | encode (kind : String) (assignments : List Assignment)
  | decode (hex : String) (id : Option UInt8)
  | checksum (hex : String)
  | configInit (force : Bool)
  | configShow
  | configPath
deriving DecidableEq

/-- What a command runs with: the effective settings, and the place of the configuration file if it
is known. -/
structure Context where
  settings : Settings
  path : Option String
deriving DecidableEq

inductive Cause where
  | field (e : FieldError)
  | frame (e : FrameError)
  | hex (fault : Hex.Fault)
  | config (e : ConfigError)
  | unknownKind (raw : String)
  | fileExists (path : String)
deriving DecidableEq

/-- The wording of a cause and of what lies behind it, the outermost first. -/
def Cause.chain : Cause → List String
  | .field e => [e.message]
  | .frame e => [e.message]
  | .hex fault => [fault.message]
  | .config e => e.chain
  | .unknownKind raw =>
    ["unknown message kind `" ++ raw ++ "` (known: " ++ ", ".intercalate (Kind.all.map Kind.name) ++
      ")"]
  | .fileExists path => [path ++ " already exists (use --force to overwrite)"]

/-- A failed command: what was being done, where that helps, and why it failed. -/
structure Failure where
  doing : Option String
  cause : Cause
deriving DecidableEq

namespace Failure

def chain (failure : Failure) : List String := failure.doing.toList ++ failure.cause.chain

def message (failure : Failure) : String := ": ".intercalate failure.chain

end Failure

instance : Coe Cause Failure := ⟨fun cause => ⟨none, cause⟩⟩

structure Outcome where
  result : Except Failure String
  events : List Event
  files : Files

/-- Finds a kind by number or by name.  What reads as a byte is a number. -/
def Kind.parse (raw : String) : Except Cause Kind :=
  match Text.readByte raw.toList with
  | .ok n =>
    match Kind.ofId? (UInt8.ofInt n) with
    | some kind => .ok kind
    | none => .error (.frame (.unknownId (UInt8.ofInt n)))
  | .error _ =>
    match Kind.ofName? raw with
    | some kind => .ok kind
    | none => .error (.unknownKind raw)

end Fieldbus
