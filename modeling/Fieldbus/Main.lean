import Fieldbus.Command.Session

/-!
# The program

Reads the command line, the environment and the configuration file, runs the tool, and prints.  The
tool sees only the part of the file system that leads to its configuration file.
-/

namespace Fieldbus.Program

def places (place : List String) : List String → List (List String)
  | [] => []
  | name :: names =>
    if name = "." then places place names
    else if name = ".." then places place.dropLast names
    else (place ++ [name]) :: places (place ++ [name]) names

/-- The places that a path leads through; none if the text is no path. -/
def placesOf (here : List String) (path : String) : List (List String) :=
  match Files.check path with
  | .ok () => places (if Path.isAbsolute path then [] else here) (Path.names path)
  | .error _ => []

def absolute (place : List String) : String := "/" ++ "/".intercalate place

def look (place : List String) : IO (Option Node) := do
  if place.any fun name => Path.nameLimit < name.utf8ByteSize then return none
  try
    return some (.file (← IO.FS.readBinFile (absolute place)).toList)
  catch
    | .inappropriateType _ code _ => return if code = 21 then some (.directory []) else none
    | .noFileOrDirectory .. => return none
    | e => throw e

/-- Adds what lies at a place, unless it is known. -/
def survey (files : Files) (place : List String) : IO Files := do
  if (files.root.get? place).isSome then return files
  match ← look place with
  | none => return files
  | some node => return files.put place node

/-- Brings a place to what it is after a run. -/
def commit (before after : Files) (place : List String) : IO Unit := do
  match before.root.get? place, after.root.get? place with
  | none, some (.directory _) => IO.FS.createDir (absolute place)
  | none, some (.file new) => IO.FS.writeBinFile (absolute place) ⟨new.toArray⟩
  | some (.file old), some (.file new) =>
    unless old = new do IO.FS.writeBinFile (absolute place) ⟨new.toArray⟩
  | _, _ => return

def environment : IO Environment := do
  return ⟨← IO.getEnv "DUCKLINK_CONFIG", ← IO.getEnv "XDG_CONFIG_HOME", ← IO.getEnv "HOME",
    ← IO.getEnv "RUST_LOG"⟩

end Fieldbus.Program

def main (words : List String) : IO UInt32 := do
  let environment ← Fieldbus.Program.environment
  let here := Fieldbus.Path.names (← IO.currentDir).toString
  let path := match Fieldbus.Request.read words with
    | .ok request => ((Fieldbus.Session.configPath request environment).toOption).join
    | .error _ => none
  let places := (path.map (Fieldbus.Program.placesOf here)).getD []
  let before ← places.foldlM Fieldbus.Program.survey (Fieldbus.Files.inside here)
  let (printed, after) := Fieldbus.Session.run words environment before
  places.forM (Fieldbus.Program.commit before after)
  IO.print printed.output
  printed.notes.forM fun note => IO.eprintln note
  return UInt32.ofNat printed.status
