import Fieldbus.Text.Basic

/-!
# Paths

A path is a text of names between slashes.  Its names are taken as they stand: where a dot or two
dots lead is decided by the directories that the path passes through.
-/

namespace Fieldbus.Path

/-- The longest name that a directory can hold, in bytes. -/
def nameLimit : Nat := 255

/-- The first length, in bytes, at which a path is too long. -/
def lengthLimit : Nat := 4096

/-- The names of a path in order, with dots and two dots among them. -/
def names (path : String) : List String :=
  ((Text.split '/' path.toList).filter fun part => !part.isEmpty).map String.ofList

def endsInSlash (path : String) : Bool := path.toList.getLast? == some '/'

/-- The names to go through to what a path means.  A slash at the end asks for a directory, as a
dot after it would. -/
def steps (path : String) : List String :=
  if endsInSlash path then names path ++ ["."] else names path

def isAbsolute (path : String) : Bool := path.toList.head? == some '/'

/-- A path continued by another.  An absolute one stands alone. -/
def join (left right : String) : String :=
  if isAbsolute right || left.isEmpty then right
  else if endsInSlash left then left ++ right
  else left ++ "/" ++ right

/-- Drops trailing slashes and dots between them, except a slash at the start. -/
def dropTail : List Char → List Char
  | [] => []
  | c :: rest =>
    if c = '/' then if rest.isEmpty then [c] else dropTail rest
    else if c = '.' ∧ rest.head? = some '/' then dropTail rest
    else c :: rest

/-- The path of the directory that holds a path's last name; the empty path and the root have
none. -/
def parent? (path : String) : Option String :=
  let reversed := dropTail path.toList.reverse
  if reversed = [] ∨ reversed = ['/'] then none
  else some (String.ofList (dropTail (reversed.dropWhile (· ≠ '/'))).reverse)

/-- The first `count` paths among a path, its parent, the parent of that, and so on, without the
one that has no parent. -/
def ancestorsUpTo : Nat → String → List String
  | 0, _ => []
  | count + 1, path =>
    match parent? path with
    | none => []
    | some parent => path :: ancestorsUpTo count parent

/-- A path and the paths of the directories above it, the longest first.  Each is shorter than the
one before. -/
def ancestors (path : String) : List String := ancestorsUpTo path.length path

end Fieldbus.Path
