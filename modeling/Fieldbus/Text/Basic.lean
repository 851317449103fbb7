/-!
# Text

White space, the parts of a text between marks, and integers in decimal.  An integer is one optional
sign and decimal digits, read from left to right.  Reading stops at the first character that is no
digit, or at the first digit that leaves the admitted range.
-/

namespace Fieldbus.Text

/-! ## White space -/

/-- Whether a character has the Unicode property White_Space. -/
def isBlank (c : Char) : Bool :=
  (0x9 ≤ c.toNat && c.toNat ≤ 0xD) || c.toNat == 0x20 || c.toNat == 0x85 || c.toNat == 0xA0 ||
    c.toNat == 0x1680 || (0x2000 ≤ c.toNat && c.toNat ≤ 0x200A) || c.toNat == 0x2028 ||
    c.toNat == 0x2029 || c.toNat == 0x202F || c.toNat == 0x205F || c.toNat == 0x3000

def trimEnd (text : List Char) : List Char := (text.reverse.dropWhile isBlank).reverse

def trim (text : List Char) : List Char := trimEnd (text.dropWhile isBlank)

/-! ## Parts -/

/-- The parts of a text between the marks in it, empty ones included. -/
def split (mark : Char) : List Char → List (List Char)
  | [] => [[]]
  | c :: rest =>
    if c = mark then [] :: split mark rest
    else match split mark rest with
      | [] => [[c]]
      | part :: parts => (c :: part) :: parts

def lines (text : String) : List String := (split '\n' text.toList).map String.ofList

def pad (width : Nat) (text : String) : String := text ++ "".pushn ' ' (width - text.length)

/-! ## Integers -/

inductive IntegerFault where
  | empty
  | invalidDigit
  | tooLarge
  | tooSmall
deriving DecidableEq

def IntegerFault.message : IntegerFault → String
  | .empty => "cannot parse integer from empty string"
  | .invalidDigit => "invalid digit found in string"
  | .tooLarge => "number too large to fit in target type"
  | .tooSmall => "number too small to fit in target type"

def digit? (c : Char) : Option Nat :=
  if c.isDigit then some (c.toNat - 48) else none

/-- Appends digits to a number that stays between `lo` and `hi`, away from zero if `negative`. -/
def readDigits (lo hi : Int) (negative : Bool) : Int → List Char → Except IntegerFault Int
  | acc, [] => .ok acc
  | acc, c :: rest =>
    match digit? c with
    | none => .error .invalidDigit
    | some d =>
      let next := if negative then acc * 10 - d else acc * 10 + d
      if hi < next then .error .tooLarge
      else if next < lo then .error .tooSmall
      else readDigits lo hi negative next rest

/-- Reads an integer between `lo` and `hi`.  A minus sign is admitted only if the range holds
negative numbers. -/
def readInteger (lo hi : Int) : List Char → Except IntegerFault Int
  | [] => .error .empty
  | ['+'] => .error .invalidDigit
  | ['-'] => .error .invalidDigit
  | '+' :: digits => readDigits lo hi false 0 digits
  | '-' :: digits =>
    if lo < 0 then readDigits lo hi true 0 digits else .error .invalidDigit
  | digits => readDigits lo hi false 0 digits

def readInt64 : List Char → Except IntegerFault Int :=
  readInteger (-9223372036854775808) 9223372036854775807

def readByte : List Char → Except IntegerFault Int := readInteger 0 255

def writeInteger (n : Int) : List Char :=
  if n < 0 then '-' :: Nat.toDigits 10 n.natAbs else Nat.toDigits 10 n.natAbs

def decimal (n : Int) : String := String.ofList (writeInteger n)

end Fieldbus.Text
