import Fieldbus.Text.Basic
import Fieldbus.Text.Quoted
import Fieldbus.Text.Utf8

/-!
# Hexadecimal text

Bytes as pairs of hexadecimal digits.  The reader takes what an operator types: a leading `0x`,
either case, and blanks, colons and hyphens anywhere between the digits.
-/

namespace Fieldbus.Hex

def digit (upper : Bool) (n : Nat) : Char :=
  if n < 10 then Char.ofNat (48 + n) else Char.ofNat ((if upper then 55 else 87) + n)

def pair (upper : Bool) (byte : UInt8) : List Char :=
  [digit upper (byte.toNat / 16), digit upper (byte.toNat % 16)]

def format (bytes : List UInt8) (upper : Bool) : List Char := bytes.flatMap (pair upper)

inductive Fault where
  | oddLength
  | invalidCharacter (character : Char) (position : Nat)
deriving DecidableEq

def Fault.message : Fault → String
  | .oddLength => "Odd number of digits"
  | .invalidCharacter character position =>
    "Invalid character " ++ String.ofList (Text.quoteChar character) ++
      " at position " ++ Text.decimal position

def value? (code : UInt8) : Option Nat :=
  if 48 ≤ code ∧ code ≤ 57 then some (code.toNat - 48)
  else if 97 ≤ code ∧ code ≤ 102 then some (code.toNat - 87)
  else if 65 ≤ code ∧ code ≤ 70 then some (code.toNat - 55)
  else none

/-- Reads digit pairs from character codes, the first of them at `position`.  A bad code is shown as
the character of that number. -/
def readPairs (position : Nat) : List UInt8 → Except Fault (List UInt8)
  | [] => .ok []
  | [_] => .error .oddLength
  | high :: low :: rest =>
    match value? high, value? low with
    | none, _ => .error (.invalidCharacter (Char.ofNat high.toNat) position)
    | some _, none => .error (.invalidCharacter (Char.ofNat low.toNat) (position + 1))
    | some h, some l => do
      let bytes ← readPairs (position + 2) rest
      return UInt8.ofNat (16 * h + l) :: bytes

def isSeparator (c : Char) : Bool := Text.isBlank c || c == ':' || c == '-'

/-- Text without one leading `0x` or `0X`. -/
def dropMark : List Char → List Char
  | '0' :: 'x' :: rest => rest
  | '0' :: 'X' :: rest => rest
  | text => text

def digits (text : List Char) : List Char :=
  (dropMark (Text.trim text)).filter fun c => !isSeparator c

/-- Reads typed bytes.  An odd number of character codes is reported before any bad character. -/
def parse (text : List Char) : Except Fault (List UInt8) :=
  let codes := Utf8.encode (digits text)
  if codes.length % 2 = 1 then .error .oddLength else readPairs 0 codes

end Fieldbus.Hex
