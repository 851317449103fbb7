import Fieldbus.Command.Catalog
import Fieldbus.Command.Decode
import Fieldbus.Command.Encode

/-!
# Running a command

Each command is a function of its context and the files; only the creation of a configuration file
changes anything.
-/

namespace Fieldbus.Command

def showSettings (settings : Settings) : String :=
  match settings.format with
  | .text => String.ofList (Text.trimEnd settings.toToml.toList)
  | .json => settings.toJson.pretty

/-- Creates a configuration file with the defaults.  A file that exists is replaced only if
`force`. -/
def initConfig (path : Option String) (force : Bool) (files : Files) : Outcome :=
  match path with
  | none => ⟨.error (Cause.config .noLocation), [], files⟩
  | some path =>
    if files.has path && !force then ⟨.error (Cause.fileExists path), [], files⟩
    else match Config.save .default files path with
      | (.ok (), files) => ⟨.ok ("wrote " ++ path), [], files⟩
      | (.error e, files) => ⟨.error (Cause.config e), [], files⟩

def run (command : Command) (context : Context) (files : Files) : Outcome :=
  match command with
  | .catalog kind => ⟨runCatalog context.settings kind, [], files⟩
  | .encode kind assignments =>
    let (result, events) := runEncode context.settings kind assignments
    ⟨result, events, files⟩
  | .decode hex id =>
    let (result, events) := runDecode context.settings hex id
    ⟨result, events, files⟩
  | .checksum hex => ⟨runChecksum context.settings hex, [], files⟩
  | .configInit force => initConfig context.path force files
  | .configShow => ⟨.ok (showSettings context.settings), [], files⟩
  | .configPath =>
    match context.path with
    | some path => ⟨.ok path, [], files⟩
    | none => ⟨.error (Cause.config .noLocation), [], files⟩

end Fieldbus.Command
