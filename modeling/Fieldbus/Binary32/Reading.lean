import Fieldbus.Binary32.Shortest

/-!
# Floats from text

An optional sign, then digits with an optional point and an optional exponent, or one of the words
`inf`, `infinity` and `nan` in any case.  The number is rounded once from its exact value, whatever
its length and exponent.
-/

namespace Fieldbus.Binary32

inductive Fault where
  | empty
  | invalid
deriving DecidableEq

def Fault.message : Fault → String
  | .empty => "cannot parse float from empty string"
  | .invalid => "invalid float literal"

def digitsValue (digits : List Char) : Nat :=
  digits.foldl (fun acc c => acc * 10 + (c.toNat - 48)) 0

/-- The magnitude nearest to `digits * 10 ^ exponent`, where `digits` has at most `width` digits.
Numbers beyond the greatest and below the least float are told from their exponents alone. -/
def nearestDecimal (digits width : Nat) (exponent : Int) : Nat :=
  if digits = 0 then 0
  else if 40 < exponent then infinite
  else if exponent + width < -50 then 0
  else nearest (Decimal.num ⟨digits, exponent⟩) (Decimal.den ⟨digits, exponent⟩)

/-- The exponent at the end of a number; no text is the exponent zero. -/
def readExponent? : List Char → Option Int
  | [] => some 0
  | mark :: rest =>
    if mark = 'e' ∨ mark = 'E' then
      let (negative, digits) := match rest with
        | '-' :: digits => (true, digits)
        | '+' :: digits => (false, digits)
        | digits => (false, digits)
      if digits.isEmpty || !digits.all Char.isDigit then none
      else if negative then some (-(digitsValue digits : Int)) else some (digitsValue digits)
    else none

def readDecimal? (text : List Char) : Option Nat :=
  let whole := text.takeWhile Char.isDigit
  let rest := text.dropWhile Char.isDigit
  let (fraction, rest) := match rest with
    | '.' :: rest => (rest.takeWhile Char.isDigit, rest.dropWhile Char.isDigit)
    | rest => ([], rest)
  let digits := whole ++ fraction
  if digits.isEmpty then none
  else (readExponent? rest).map fun e =>
    nearestDecimal (digitsValue digits) digits.length (e - fraction.length)

def readMagnitude? (text : List Char) : Option Nat :=
  let lower := text.map Char.toLower
  if lower = "inf".toList ∨ lower = "infinity".toList then some infinite
  else if lower = "nan".toList then some 0x7FC00000
  else readDecimal? text

def read (text : List Char) : Except Fault Binary32 :=
  let (negative, body) := match text with
    | '-' :: body => (true, body)
    | '+' :: body => (false, body)
    | body => (false, body)
  if text.isEmpty then .error .empty
  else match readMagnitude? body with
    | some magnitude => .ok (ofParts negative magnitude)
    | none => .error .invalid

end Fieldbus.Binary32
