import Fieldbus.Config.Path
import Fieldbus.Text.Utf8

/-!
# File systems

A tree of files with a working directory, and what paths mean in it.  A place in a tree is the list
of the names that lead to it from the top.  A path is followed name by name: each step starts in a
directory that exists, two dots lead to the directory above it, and the directory above the root is
the root.
-/

namespace Fieldbus

inductive Node where
  | file (content : List UInt8)
  | directory (entries : List (String × Node))

namespace Node

def find? (name : String) : List (String × Node) → Option Node
  | [] => none
  | (n, node) :: rest => if n = name then some node else find? name rest

def replace (name : String) (node : Node) : List (String × Node) → List (String × Node)
  | [] => [(name, node)]
  | (n, old) :: rest => if n = name then (n, node) :: rest else (n, old) :: replace name node rest

def get? : Node → List String → Option Node
  | node, [] => some node
  | .file _, _ :: _ => none
  | .directory entries, name :: names =>
    match find? name entries with
    | none => none
    | some node => node.get? names

/-- The tree with another node at a place, and with a directory wherever one is missing on the way.
A place inside a file does not exist, and the tree stays as it is. -/
def put : Node → List String → Node → Node
  | _, [], new => new
  | .file content, _ :: _, _ => .file content
  | .directory entries, name :: names, new =>
    .directory (replace name (((find? name entries).getD (.directory [])).put names new) entries)

end Node

inductive IoError where
  | notFound
  | alreadyExists
  | notADirectory
  | isADirectory
  | nameTooLong
  | zeroInPath
  | notUtf8
deriving DecidableEq

def IoError.message : IoError → String
  | .notFound => "No such file or directory (os error 2)"
  | .alreadyExists => "File exists (os error 17)"
  | .notADirectory => "Not a directory (os error 20)"
  | .isADirectory => "Is a directory (os error 21)"
  | .nameTooLong => "File name too long (os error 36)"
  | .zeroInPath => "file name contained an unexpected NUL byte"
  | .notUtf8 => "stream did not contain valid UTF-8"

/-- A file system: its tree, and the place of its working directory. -/
structure Files where
  root : Node
  here : List String

namespace Files

def inside (here : List String) : Files := ⟨(Node.directory []).put here (.directory []), here⟩

/-- The place that a path starts from.  A working directory may be gone. -/
def start (files : Files) (path : String) : Except IoError (List String) :=
  if Path.isAbsolute path then .ok []
  else if (files.root.get? files.here).isSome then .ok files.here
  else .error .notFound

def check (path : String) : Except IoError Unit :=
  if path.toList.contains '\x00' then .error .zeroInPath
  else if path.isEmpty then .error .notFound
  else if Path.lengthLimit ≤ path.utf8ByteSize then .error .nameTooLong
  else .ok ()

def step (files : Files) (place : List String) (name : String) : Except IoError (List String) :=
  match files.root.get? place with
  | none => .error .notFound
  | some (.file _) => .error .notADirectory
  | some (.directory entries) =>
    if name = "." then .ok place
    else if name = ".." then .ok place.dropLast
    else if Path.nameLimit < name.utf8ByteSize then .error .nameTooLong
    else if (Node.find? name entries).isSome then .ok (place ++ [name])
    else .error .notFound

def follow (files : Files) (place names : List String) : Except IoError (List String) :=
  names.foldlM files.step place

def locate (files : Files) (path : String) : Except IoError (List String) := do
  check path
  files.follow (← files.start path) (Path.steps path)

def node (files : Files) (path : String) : Except IoError Node := do
  match files.root.get? (← files.locate path) with
  | some node => return node
  | none => throw .notFound

def has (files : Files) (path : String) : Bool := (files.node path).isOk

def isDirectory (files : Files) (path : String) : Bool :=
  match files.node path with
  | .ok (.directory _) => true
  | _ => false

def read (files : Files) (path : String) : Except IoError (List UInt8) := do
  match ← files.node path with
  | .file content => return content
  | .directory _ => throw .isADirectory

def readText (files : Files) (path : String) : Except IoError String := do
  match Utf8.decode? (← files.read path) with
  | some text => return String.ofList text
  | none => throw .notUtf8

def put (files : Files) (place : List String) (node : Node) : Files :=
  { files with root := files.root.put place node }

/-- Stores a content at a path whose directory exists. -/
def write (files : Files) (path : String) (content : List UInt8) : Except IoError Files := do
  check path
  let names := Path.names path
  let place ← files.follow (← files.start path) names.dropLast
  match names.getLast? with
  | none => throw .isADirectory
  | some name =>
    match files.step place name with
    | .error .notADirectory => throw .notADirectory
    | found =>
      if Path.endsInSlash path then throw .isADirectory
      else match found with
        | .error .notFound => return files.put (place ++ [name]) (.file content)
        | .error cause => throw cause
        | .ok found =>
          match files.root.get? found with
          | some (.directory _) => throw .isADirectory
          | _ => return files.put found (.file content)

/-- Adds a directory at a path where nothing is yet, in a directory that exists. -/
def makeDirectory (files : Files) (path : String) : Except IoError Files := do
  check path
  let names := Path.names path
  let place ← files.follow (← files.start path) names.dropLast
  match names.getLast? with
  | none => throw .alreadyExists
  | some name =>
    match files.step place name with
    | .error .notFound => return files.put (place ++ [name]) (.directory [])
    | .error cause => throw cause
    | .ok _ => throw .alreadyExists

/-- What comes of adding a directory if one that is there already will do. -/
def settle (files : Files) (path : String) (cause : IoError) : Except IoError Unit × Files :=
  (if files.isDirectory path then .ok () else .error cause, files)

/-- Adds the directory at the first of some paths, each of which lies in the next one; where that
is missing it is added before.  The directories that were added stay, whatever comes after. -/
def makeAll (files : Files) : List String → Except IoError Unit × Files
  | [] => (.ok (), files)
  | path :: above =>
    match files.makeDirectory path with
    | .ok files => (.ok (), files)
    | .error .notFound =>
      match files.makeAll above with
      | (.error cause, files) => (.error cause, files)
      | (.ok (), files) =>
        match files.makeDirectory path with
        | .ok files => (.ok (), files)
        | .error cause => files.settle path cause
    | .error cause => files.settle path cause

/-- Adds the directory at a path together with those that are missing above it. -/
def makeDirectories (files : Files) (path : String) : Except IoError Unit × Files :=
  files.makeAll (Path.ancestors path)

end Files

end Fieldbus
