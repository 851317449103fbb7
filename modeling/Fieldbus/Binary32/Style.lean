import Fieldbus.Binary32.Shortest

/-!
# Floats as text

A float is written with the digits of its shortest decimal.  A style says for which powers of ten
the digits stand around a point, and how the rest looks; the four styles of this library differ
in nothing else.
-/

namespace Fieldbus

structure Style where
  /-- Whether a number whose first digit counts `10 ^ e` is written without exponent. -/
  positional : Int → Bool
  /-- Whether whole numbers end in a point and a zero. -/
  pointed : Bool
  /-- Whether an exponent that is not negative has a plus sign. -/
  signed : Bool
  tie : Tie

namespace Style

/-- Never an exponent, and no point in whole numbers. -/
def plain : Style := ⟨fun _ => true, false, false, .up⟩

/-- A point in every number; an exponent below `10 ^ -4` and from `10 ^ 16` on. -/
def pointed16 : Style := ⟨fun e => decide (-4 ≤ e) && decide (e < 16), true, false, .up⟩

def scientific : Style := ⟨fun _ => false, false, false, .up⟩

/-- A point in every number; a signed exponent below `10 ^ -6` and from `10 ^ 13` on. -/
def interchange : Style := ⟨fun e => decide (-6 ≤ e) && decide (e < 13), true, true, .even⟩

/-- Digits around a point that has `places` digits before it. -/
def layPositional (style : Style) (digits : List Char) (places : Int) : List Char :=
  if places ≤ 0 then '0' :: '.' :: List.replicate (-places).toNat '0' ++ digits
  else if places < digits.length then
    digits.take places.toNat ++ '.' :: digits.drop places.toNat
  else
    let whole := digits ++ List.replicate (places.toNat - digits.length) '0'
    if style.pointed then whole ++ ['.', '0'] else whole

def layExponent (style : Style) (e : Int) : List Char :=
  let number := Nat.toDigits 10 e.natAbs
  if e < 0 then '-' :: number else if style.signed then '+' :: number else number

def layScientific (style : Style) (digits : List Char) (e : Int) : List Char :=
  let fraction := digits.drop 1
  digits.take 1 ++ (if fraction.isEmpty then [] else '.' :: fraction) ++ 'e' :: style.layExponent e

def layDecimal (style : Style) (d : Decimal) : List Char :=
  let digits := Nat.toDigits 10 d.digits
  let places := digits.length + d.exponent
  if style.positional (places - 1) then style.layPositional digits places
  else style.layScientific digits (places - 1)

def layMagnitude (style : Style) (magnitude : Nat) : List Char :=
  if magnitude = 0 then style.layDecimal ⟨0, 0⟩
  else if magnitude < Binary32.infinite then
    style.layDecimal (Binary32.shortest style.tie magnitude)
  else "inf".toList

end Style

namespace Binary32

/-- The text of a float.  NaNs have neither sign nor payload. -/
def text (style : Style) (x : Binary32) : List Char :=
  if x.isNaN then "NaN".toList
  else if x.isNegative then '-' :: style.layMagnitude x.magnitude
  else style.layMagnitude x.magnitude

end Binary32

end Fieldbus
