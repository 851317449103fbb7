import Fieldbus.Config.Files
import Fieldbus.Config.Settings

/-!
# The configuration file

Where it lies, how it is loaded, and how it is saved.  A missing file stands for the defaults.
-/

namespace Fieldbus

inductive ConfigFault where
  | malformed
  | mistyped
deriving DecidableEq

def ConfigFault.message : ConfigFault → String
  | .malformed => "not a TOML document"
  | .mistyped => "a value is of the wrong type"

inductive ConfigError where
  | noLocation
  | io (path : String) (cause : IoError)
  | parse (cause : ConfigFault)
deriving DecidableEq

/-- The wording of an error and of what lies behind it, the outermost first. -/
def ConfigError.chain : ConfigError → List String
  | .noLocation => ["could not determine platform config directory"]
  | .io path cause =>
    ["I/O error accessing config at " ++ path ++ ": " ++ cause.message, cause.message]
  | .parse cause => ["failed to parse config TOML: " ++ cause.message, cause.message]

namespace Config

/-- The directory of the tool under the user's configuration directory, which is named by a variable
of its own or lies in the home directory. -/
def directory (configHome home : Option String) : Except ConfigError String :=
  match configHome, home with
  | some base, _ => .ok (Path.join base "ducklink")
  | none, some home => .ok (Path.join (Path.join home ".config") "ducklink")
  | none, none => .error .noLocation

def location (configHome home : Option String) : Except ConfigError String :=
  (directory configHome home).map (Path.join · "config.toml")

def resolve (explicit configHome home : Option String) : Except ConfigError String :=
  match explicit with
  | some path => .ok path
  | none => location configHome home

def parse (text : String) : Except ConfigFault Settings :=
  match Toml.parse? text.toList with
  | none => .error .malformed
  | some table =>
    match Settings.ofTable? table with
    | none => .error .mistyped
    | some settings => .ok settings

/-- Loads the settings from a path.  If nothing is there they are the defaults. -/
def load (files : Files) (path : String) : Except ConfigError Settings :=
  match files.readText path with
  | .ok text => (parse text).mapError .parse
  | .error .notFound => .ok .default
  | .error cause => .error (.io path cause)

/-- Adds the directory that a file is to lie in.  The directories above it that were made stay even
if it cannot be. -/
def prepare (files : Files) (path : String) : Except ConfigError Unit × Files :=
  match Path.parent? path with
  | none => (.ok (), files)
  | some directory =>
    let (result, files) := files.makeDirectories directory
    (result.mapError (.io directory), files)

/-- Saves settings at a path, making its directory first.  The directory stays even if the file
cannot be written. -/
def save (settings : Settings) (files : Files) (path : String) :
    Except ConfigError Unit × Files :=
  match prepare files path with
  | (.error e, files) => (.error e, files)
  | (.ok (), files) =>
    match files.write path (Utf8.encode settings.toToml.toList) with
    | .error cause => (.error (.io path cause), files)
    | .ok files => (.ok (), files)

end Config

end Fieldbus
