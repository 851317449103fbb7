import Fieldbus.Binary32.Reading
import Fieldbus.Text.Hex
import Fieldbus.Toml.Table

/-!
# TOML scalars

Strings in their four forms, numbers, dates and times.  A reader takes the start of a text and
returns what it read with the rest.
-/

namespace Fieldbus.Toml

abbrev Read (α : Type) := Option (α × List Char)

def prepend (chars : List Char) (read : Read (List Char)) : Read (List Char) :=
  read.map fun (text, rest) => (chars ++ text, rest)

def isBlank (c : Char) : Bool := c == ' ' || c == '\t'

/-- Characters that may stand in comments and strings: all but the controls, the tab excepted. -/
def isPlain (c : Char) : Bool := c == '\t' || (0x20 ≤ c.toNat && c.toNat != 0x7F)

def skipBlanks (text : List Char) : List Char := text.dropWhile isBlank

def newline? : List Char → Option (List Char)
  | '\n' :: rest => some rest
  | '\r' :: '\n' :: rest => some rest
  | _ => none

def dropNewline (text : List Char) : List Char := (newline? text).getD text

/-! ## Strings -/

inductive Escape where
  | none
  | begun
  | code (left value : Nat)
deriving DecidableEq

def letter? (c : Char) : Option Char :=
  if c = 'b' then some '\x08'
  else if c = 't' then some '\t'
  else if c = 'n' then some '\n'
  else if c = 'f' then some '\x0c'
  else if c = 'r' then some '\r'
  else if c = '\x22' then some c
  else if c = '\\' then some c
  else none

def hexValue? (c : Char) : Option Nat :=
  if c.toNat < 0x80 then Hex.value? (UInt8.ofNat c.toNat) else none

def scalar? (code : Nat) : Option Char :=
  if code.isValidChar then some (Char.ofNat code) else none

/-- Takes one character of an escape; yields what it completes and where the reader stands then. -/
def escapeStep (escape : Escape) (c : Char) : Option (List Char × Escape) :=
  match escape with
  | .code left value =>
    match hexValue? c with
    | none => none
    | some digit =>
      if left ≤ 1 then (scalar? (16 * value + digit)).map fun c => ([c], .none)
      else some ([], .code (left - 1) (16 * value + digit))
  | _ =>
    if c = 'u' then some ([], .code 4 0)
    else if c = 'U' then some ([], .code 8 0)
    else (letter? c).map fun c => ([c], .none)

def basic : Escape → List Char → Read (List Char)
  | _, [] => none
  | .none, c :: rest =>
    if c = '\x22' then some ([], rest)
    else if c = '\\' then basic .begun rest
    else if isPlain c then prepend [c] (basic .none rest)
    else none
  | escape, c :: rest =>
    match escapeStep escape c with
    | none => none
    | some (out, escape) => prepend out (basic escape rest)

def literal : List Char → Read (List Char)
  | [] => none
  | c :: rest =>
    if c = '\x27' then some ([], rest)
    else if isPlain c then prepend [c] (literal rest)
    else none

inductive Mode where
  | text
  | escape (escape : Escape)
  /-- After a backslash at the end of a line; whether the line has ended. -/
  | fold (ended : Bool)
  /-- After a carriage return; whether lines are being folded. -/
  | carriage (folding : Bool)
  | quotes (count : Nat)
deriving DecidableEq

inductive Action where
  | refuse
  | next (out : List Char) (mode : Mode)
  /-- The string ended before this character. -/
  | stop (out : List Char)

def textAction (quote : Char) (escapes : Bool) (c : Char) : Action :=
  if c = quote then .next [] (.quotes 1)
  else if c = '\\' ∧ escapes = true then .next [] (.escape .begun)
  else if c = '\n' then .next [c] .text
  else if c = '\r' then .next [] (.carriage false)
  else if isPlain c then .next [c] .text
  else .refuse

def foldAction (quote : Char) (ended : Bool) (c : Char) : Action :=
  if isBlank c then .next [] (.fold ended)
  else if c = '\n' then .next [] (.fold true)
  else if c = '\r' then .next [] (.carriage true)
  else if ended then textAction quote true c
  else .refuse

/-- A character of a string over several lines.  Three quote marks in a row end it, and up to two
more belong to the text before them. -/
def action (quote : Char) (escapes : Bool) (mode : Mode) (c : Char) : Action :=
  match mode with
  | .text => textAction quote escapes c
  | .escape .begun =>
    if isBlank c ∨ c = '\n' ∨ c = '\r' then foldAction quote false c
    else match escapeStep .begun c with
      | none => .refuse
      | some (out, .none) => .next out .text
      | some (out, escape) => .next out (.escape escape)
  | .escape escape =>
    match escapeStep escape c with
    | none => .refuse
    | some (out, .none) => .next out .text
    | some (out, escape) => .next out (.escape escape)
  | .fold ended => foldAction quote ended c
  | .carriage folding =>
    if c ≠ '\n' then .refuse
    else if folding then .next [] (.fold true)
    else .next ['\n'] .text
  | .quotes count =>
    if c = quote ∧ count < 5 then .next [] (.quotes (count + 1))
    else if 3 ≤ count then .stop (List.replicate (count - 3) quote)
    else match textAction quote escapes c with
      | .next out mode => .next (List.replicate count quote ++ out) mode
      | other => other

def multiline (quote : Char) (escapes : Bool) : Mode → List Char → Read (List Char)
  | .quotes count, [] =>
    if 3 ≤ count then some (List.replicate (count - 3) quote, []) else none
  | _, [] => none
  | mode, c :: rest =>
    match action quote escapes mode c with
    | .refuse => none
    | .stop out => some (out, c :: rest)
    | .next out mode => prepend out (multiline quote escapes mode rest)

def lineString? : List Char → Read (List Char)
  | '\x22' :: rest => basic .none rest
  | '\x27' :: rest => literal rest
  | _ => none

def string? : List Char → Read (List Char)
  | '\x22' :: '\x22' :: '\x22' :: rest => multiline '\x22' true .text (dropNewline rest)
  | '\x27' :: '\x27' :: '\x27' :: rest => multiline '\x27' false .text (dropNewline rest)
  | text => lineString? text

/-! ## Numbers -/

/-- Digits, with single underscores between them. -/
def digitRun (isDigit : Char → Bool) : List Char → Read (List Char)
  | [] => none
  | c :: rest =>
    if !isDigit c then none
    else match rest with
      | '_' :: rest => prepend [c] (digitRun isDigit rest)
      | d :: more =>
        if isDigit d then prepend [c] (digitRun isDigit (d :: more)) else some ([c], rest)
      | [] => some ([c], [])

def wholePart : List Char → Read (List Char)
  | '0' :: rest => some (['0'], rest)
  | text => digitRun Char.isDigit text

def number (base : Nat) (digits : List Char) : Nat :=
  digits.foldl (fun acc c => acc * base + (hexValue? c).getD 0) 0

def integer? (n : Int) (rest : List Char) : Read Value :=
  if -9223372036854775808 ≤ n ∧ n ≤ 9223372036854775807 then some (.integer n, rest) else none

/-- Whether `digits * 10 ^ exponent` is beyond the greatest float of 64 bits. -/
def overflows (digits : List Char) (exponent : Int) : Bool :=
  let n := number 10 digits
  if n = 0 then false
  else if 400 < exponent then true
  else if exponent + digits.length < 300 then false
  else decide ((Nat.pow 2 1024 - Nat.pow 2 970) * Nat.pow 10 (-exponent).toNat
    ≤ n * Nat.pow 10 exponent.toNat)

def exponent? : List Char → Read Int
  | '-' :: rest => (digitRun Char.isDigit rest).map fun (ds, rest) => (-(number 10 ds : Int), rest)
  | '+' :: rest => (digitRun Char.isDigit rest).map fun (ds, rest) => ((number 10 ds : Int), rest)
  | text => (digitRun Char.isDigit text).map fun (ds, rest) => ((number 10 ds : Int), rest)

/-- A float of 64 bits; positive ones must be finite. -/
def float? (negative : Bool) (digits : List Char) (exponent : Int) (rest : List Char) :
    Read Value :=
  if !negative && overflows digits exponent then none else some (.float, rest)

/-- The end of a float whose digits so far have `places` after the point. -/
def afterFraction? (negative : Bool) (digits : List Char) (places : Nat) :
    List Char → Read Value
  | 'e' :: rest | 'E' :: rest =>
    match exponent? rest with
    | none => none
    | some (e, rest) => float? negative digits (e - places) rest
  | rest => float? negative digits (-(places : Int)) rest

def decimal? (negative : Bool) (text : List Char) : Read Value :=
  match wholePart text with
  | none => none
  | some (whole, '.' :: rest) =>
    match digitRun Char.isDigit rest with
    | none => none
    | some (fraction, rest) => afterFraction? negative (whole ++ fraction) fraction.length rest
  | some (whole, 'e' :: rest) => afterFraction? negative whole 0 ('e' :: rest)
  | some (whole, 'E' :: rest) => afterFraction? negative whole 0 ('E' :: rest)
  | some (whole, rest) =>
    integer? (if negative then -(number 10 whole : Int) else number 10 whole) rest

/-- A number after its sign, or one of the words for what is not a number. -/
def signed? (negative : Bool) : List Char → Read Value
  | 'i' :: 'n' :: 'f' :: rest => some (.float, rest)
  | 'n' :: 'a' :: 'n' :: rest => some (.float, rest)
  | text => decimal? negative text

def based? (base : Nat) (isDigit : Char → Bool) (text : List Char) : Read Value :=
  match digitRun isDigit text with
  | none => none
  | some (digits, rest) => integer? (number base digits) rest

def number? : List Char → Read Value
  | '0' :: 'x' :: rest => based? 16 (fun c => (hexValue? c).isSome) rest
  | '0' :: 'o' :: rest => based? 8 (fun c => c.isDigit && c != '8' && c != '9') rest
  | '0' :: 'b' :: rest => based? 2 (fun c => c == '0' || c == '1') rest
  | '+' :: rest => signed? false rest
  | '-' :: rest => signed? true rest
  | text => signed? false text

/-! ## Dates and times -/

def pair? (max : Nat) : List Char → Read Nat
  | a :: b :: rest =>
    let n := number 10 [a, b]
    if a.isDigit && b.isDigit && n ≤ max then some (n, rest) else none
  | _ => none

def after? (c : Char) : List Char → Option (List Char)
  | d :: rest => if d = c then some rest else none
  | [] => none

def daysIn (year month : Nat) : Nat :=
  if month = 2 then
    if year % 4 = 0 ∧ (year % 100 ≠ 0 ∨ year % 400 = 0) then 29 else 28
  else if month = 4 ∨ month = 6 ∨ month = 9 ∨ month = 11 then 30 else 31

def clock? (text : List Char) : Option (List Char) := do
  let (_, rest) ← pair? 23 text
  let (_, rest) ← pair? 59 (← after? ':' rest)
  return rest

def time? (text : List Char) : Option (List Char) := do
  let rest ← clock? text
  let (_, rest) ← pair? 60 (← after? ':' rest)
  match rest with
  | '.' :: d :: more => if d.isDigit then return more.dropWhile Char.isDigit else return rest
  | _ => return rest

def offset (text : List Char) : List Char :=
  match text with
  | 'Z' :: rest | 'z' :: rest => rest
  | '+' :: rest | '-' :: rest => (clock? rest).getD text
  | _ => text

def timeOfDate (text : List Char) : List Char :=
  match text with
  | c :: rest =>
    if c = 'T' ∨ c = 't' ∨ c = ' ' then
      match time? rest with
      | some rest => offset rest
      | none => text
    else text
  | [] => []

def monthAndDay? (year : Nat) (text : List Char) : Option (List Char) := do
  let (month, rest) ← pair? 12 text
  let (day, rest) ← pair? (daysIn year month) (← after? '-' rest)
  if month = 0 ∨ day = 0 then none else return timeOfDate rest

/-- A number, a date or a time.  Four digits and a hyphen begin a date, two digits and a colon a
time. -/
def numberOrDate? (text : List Char) : Read Value :=
  match text with
  | a :: b :: ':' :: _ =>
    if a.isDigit && b.isDigit then (time? text).map fun rest => (.datetime, rest) else number? text
  | a :: b :: c :: d :: '-' :: rest =>
    if a.isDigit && b.isDigit && c.isDigit && d.isDigit then
      (monthAndDay? (number 10 [a, b, c, d]) rest).map fun rest => (.datetime, rest)
    else number? text
  | _ => number? text

def scalarValue? (text : List Char) : Read Value :=
  match text with
  | '\x22' :: _ | '\x27' :: _ =>
    (string? text).map fun (s, rest) => (.string (String.ofList s), rest)
  | 't' :: 'r' :: 'u' :: 'e' :: rest => some (.boolean true, rest)
  | 'f' :: 'a' :: 'l' :: 's' :: 'e' :: rest => some (.boolean false, rest)
  | _ => numberOrDate? text

end Fieldbus.Toml
