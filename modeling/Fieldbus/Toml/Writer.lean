import Fieldbus.Text.Hex

/-!
# TOML strings as written

A string is written in the plainest form that can hold it: on one line in double or single quotes,
over several lines likewise, and with escapes only if no other form will do.
-/

namespace Fieldbus.Toml

/-- Whether a character needs an escape in every form: the controls but the line feed. -/
def isCode (c : Char) : Bool := (c.toNat < 0x20 && c != '\n') || c.toNat == 0x7F

/-- The longest run of a character, given the length of the run before the text. -/
def longestRunFrom (mark : Char) : Nat → List Char → Nat
  | run, [] => run
  | run, c :: rest =>
    if c = mark then longestRunFrom mark (run + 1) rest
    else max run (longestRunFrom mark 0 rest)

def longestRun (mark : Char) (text : List Char) : Nat := longestRunFrom mark 0 text

inductive Form where
  | basic
  | literal
  | multilineBasic
  | multilineLiteral
  | escaped
  | multilineEscaped
deriving DecidableEq

/-- The plainest form that can hold a text. -/
def form (text : List Char) : Form :=
  let codes := text.any isCode
  let backslash := text.contains '\\'
  let newline := text.contains '\n'
  let single := longestRun '\x27' text
  let double := longestRun '\x22' text
  if !codes && !backslash && double == 0 && !newline then .basic
  else if !codes && single == 0 && !newline then .literal
  else if !codes && !backslash && double ≤ 2 then .multilineBasic
  else if !codes && single ≤ 2 then .multilineLiteral
  else if newline then .multilineEscaped
  else .escaped

/-- A character that is not a quote mark, with escapes; line feeds stay if `multiline`. -/
def escapeChar (multiline : Bool) (c : Char) : List Char :=
  if c = '\x08' then ['\\', 'b']
  else if c = '\t' then ['\\', 't']
  else if c = '\n' then if multiline then [c] else ['\\', 'n']
  else if c = '\x0c' then ['\\', 'f']
  else if c = '\r' then ['\\', 'r']
  else if c = '\\' then ['\\', c]
  else if isCode c then ['\\', 'u', '0', '0'] ++ Hex.pair true (UInt8.ofNat c.toNat)
  else [c]

/-- Text with escapes.  Double quotes on one line all get a backslash; over several lines every
third one in a row does.  `run` counts those just before the text. -/
def escapeFrom (multiline : Bool) : Nat → List Char → List Char
  | _, [] => []
  | run, c :: rest =>
    if c = '\x22' then
      if !multiline || run == 2 then '\\' :: c :: escapeFrom multiline 0 rest
      else c :: escapeFrom multiline (run + 1) rest
    else escapeChar multiline c ++ escapeFrom multiline 0 rest

/-- Text between three quote marks on either side; a text with line feeds begins on its own line. -/
def triple (mark : Char) (text body : List Char) : List Char :=
  let marks := List.replicate 3 mark
  marks ++ (if text.contains '\n' then ['\n'] else []) ++ body ++ marks

def write (text : List Char) : List Char :=
  match form text with
  | .basic => '\x22' :: text ++ ['\x22']
  | .literal => '\x27' :: text ++ ['\x27']
  | .multilineBasic => triple '\x22' text text
  | .multilineLiteral => triple '\x27' text text
  | .escaped => '\x22' :: escapeFrom false 0 text ++ ['\x22']
  | .multilineEscaped => triple '\x22' text (escapeFrom true 0 text)

end Fieldbus.Toml
