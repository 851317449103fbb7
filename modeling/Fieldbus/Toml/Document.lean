import Fieldbus.Toml.Scalar

/-!
# TOML documents

Arrays, inline tables, keys, headers and whole documents.  Values nest less than 80 deep, and keys
have less than 80 parts.
-/

namespace Fieldbus.Toml

/-- How deep values may nest, and how many parts a key may have. -/
def depthLimit : Nat := 79

def isKeyChar (c : Char) : Bool := c.isAlphanum || c == '_' || c == '-'

def keyPart? (text : List Char) : Read String :=
  match text with
  | '\x22' :: _ | '\x27' :: _ => (lineString? text).map fun (s, rest) => (String.ofList s, rest)
  | _ =>
    let name := text.takeWhile isKeyChar
    if name.isEmpty then none else some (String.ofList name, text.dropWhile isKeyChar)

/-- A key: parts between points, with blanks around them. -/
def key? : Nat → List Char → Read (List String)
  | 0, _ => none
  | limit + 1, text =>
    match keyPart? (skipBlanks text) with
    | none => none
    | some (part, rest) =>
      match skipBlanks rest with
      | '.' :: rest => (key? limit rest).map fun (parts, rest) => (part :: parts, rest)
      | rest => some ([part], rest)

def binding? (value : List Char → Read Value) (text : List Char) : Read (List String × Value) :=
  match key? depthLimit text with
  | some (path, '=' :: rest) =>
    (value (skipBlanks rest)).map fun (v, rest) => ((path, v), rest)
  | _ => none

def skipLines : Bool → List Char → List Char
  | _, [] => []
  | _, '\r' :: '\n' :: rest => skipLines false rest
  | false, c :: rest =>
    if isBlank c || c == '\n' then skipLines false rest
    else if c = '#' then skipLines true rest
    else c :: rest
  | true, c :: rest =>
    if c = '\n' then skipLines false rest
    else if isPlain c then skipLines true rest
    else c :: rest

/-- The rest of an array.  `fuel` bounds the number of items. -/
def items (value : List Char → Read Value) : Nat → List Char → Read (List Value)
  | 0, _ => none
  | fuel + 1, text =>
    match skipLines false text with
    | ']' :: rest => some ([], rest)
    | text =>
      match value text with
      | none => none
      | some (v, rest) =>
        match skipLines false rest with
        | ']' :: rest => some ([v], rest)
        | ',' :: rest => (items value fuel rest).map fun (vs, rest) => (v :: vs, rest)
        | _ => none

/-- The rest of an inline table that is not empty.  `fuel` bounds the number of keys. -/
def members (value : List Char → Read Value) : Nat → Table → List Char → Read Table
  | 0, _, _ => none
  | fuel + 1, table, text =>
    match binding? value text with
    | none => none
    | some ((path, v), rest) =>
      match table.define v path, skipBlanks rest with
      | some table, '\x7d' :: rest => some (table, rest)
      | some table, ',' :: rest => members value fuel table rest
      | _, _ => none

/-- A value in which at most `depth` values nest. -/
def value? : Nat → List Char → Read Value
  | 0, text => scalarValue? text
  | depth + 1, text =>
    match text with
    | '[' :: rest =>
      (items (value? depth) (rest.length + 1) rest).map fun (vs, rest) => (.array vs, rest)
    | '\x7b' :: rest =>
      match skipBlanks rest with
      | '\x7d' :: rest => some (.table .inline [], rest)
      | rest =>
        (members (value? depth) rest.length [] rest).map fun (t, rest) => (.table .inline t, rest)
    | _ => scalarValue? text

/-- The text after the end of a line, before which blanks and a comment may stand. -/
def lineEnd? (text : List Char) : Option (List Char) :=
  let rest := match skipBlanks text with
    | '#' :: rest => rest.dropWhile isPlain
    | rest => rest
  match rest with
  | [] => some []
  | rest => newline? rest

/-- A document so far, and the path of the last header. -/
structure Draft where
  root : Table
  header : List String

def close? (mark : List Char) (text : List Char) : Option (List Char) :=
  if mark.isPrefixOf text then lineEnd? (text.drop mark.length) else none

/-- Opens a table by `f` at the last key of a path. -/
def Draft.openTable (draft : Draft) (f : String → Table → Option Table) (path : List String) :
    Option Draft :=
  match path.getLast? with
  | none => none
  | some key => (draft.root.descend (f key) path.dropLast).map (⟨·, path⟩)

def Draft.line? (draft : Draft) (text : List Char) : Option (Draft × List Char) :=
  match text with
  | '[' :: '[' :: rest => do
    let (path, rest) ← key? depthLimit rest
    let rest ← close? [']', ']'] rest
    return (← draft.openTable Table.openRepeated path, rest)
  | '[' :: rest => do
    let (path, rest) ← key? depthLimit rest
    let rest ← close? [']'] rest
    return (← draft.openTable Table.openHeader path, rest)
  | _ => do
    let ((path, v), rest) ← binding? (value? depthLimit) text
    let rest ← lineEnd? rest
    let root ← draft.root.descend (Table.define v path) draft.header
    return (⟨root, draft.header⟩, rest)

/-- Takes all lines of a text.  `fuel` bounds their number. -/
def Draft.lines? : Nat → Draft → List Char → Option Table
  | 0, _, _ => none
  | fuel + 1, draft, text =>
    match skipBlanks text with
    | [] => some draft.root
    | c :: rest =>
      if c = '#' ∨ c = '\n' ∨ c = '\r' then
        (lineEnd? (c :: rest)).bind (Draft.lines? fuel draft)
      else (draft.line? (c :: rest)).bind fun (draft, rest) => Draft.lines? fuel draft rest

def dropMark : List Char → List Char
  | '\ufeff' :: rest => rest
  | text => text

def parse? (text : List Char) : Option Table :=
  let text := dropMark text
  Draft.lines? (text.length + 1) ⟨[], []⟩ text

end Fieldbus.Toml
