/-!
# Single-precision floats as bit patterns

A float is its 32 bits: a sign, and a magnitude of 31 bits whose numerical order is the order of
the absolute values.  Comparison follows the usual rules for floats: nothing compares with a NaN,
and the two zeros are equal.  Every finite absolute value is a whole number of least units,
the least unit being 2 to the power -149.

The nearest float to a fraction of natural numbers takes the even neighbour on a tie.  The fraction
is scaled to least units, cut to 24 significant bits and rounded once; what exceeds the greatest
float becomes infinite.
-/

namespace Fieldbus

/-- A single-precision float, given by its bit pattern. -/
structure Binary32 where
  bits : UInt32
deriving DecidableEq

namespace Binary32

def signBit : Nat := 0x80000000

/-- The number of magnitudes with the same exponent. -/
def binade : Nat := 0x800000

/-- All bits but the sign. -/
def magnitude (x : Binary32) : Nat := x.bits.toNat % signBit

def isNegative (x : Binary32) : Bool := decide (signBit ≤ x.bits.toNat)

/-- The magnitude of the infinities; those above it are NaNs. -/
def infinite : Nat := 0x7F800000

def isNaN (x : Binary32) : Bool := decide (infinite < x.magnitude)

def isFinite (x : Binary32) : Bool := decide (x.magnitude < infinite)

def ofParts (negative : Bool) (magnitude : Nat) : Binary32 :=
  ⟨UInt32.ofNat (if negative then signBit + magnitude else magnitude)⟩

/-- The place of a float in the order of all floats, both zeros at the same place. -/
def rank (x : Binary32) : Int := if x.isNegative then -x.magnitude else x.magnitude

instance : LE Binary32 := ⟨fun x y => x.isNaN = false ∧ y.isNaN = false ∧ x.rank ≤ y.rank⟩

instance : LT Binary32 := ⟨fun x y => x.isNaN = false ∧ y.isNaN = false ∧ x.rank < y.rank⟩

instance : DecidableLE Binary32 := fun x y =>
  inferInstanceAs (Decidable (x.isNaN = false ∧ y.isNaN = false ∧ x.rank ≤ y.rank))

instance : DecidableLT Binary32 := fun x y =>
  inferInstanceAs (Decidable (x.isNaN = false ∧ y.isNaN = false ∧ x.rank < y.rank))

/-- Equality as numbers: a NaN differs from everything, the two zeros are the same. -/
def same (x y : Binary32) : Bool :=
  !x.isNaN && !y.isNaN && decide (x.rank = y.rank)

def zero : Binary32 := ⟨0⟩

def greatest : Binary32 := ⟨0x7F7FFFFF⟩

def lowest : Binary32 := ⟨0xFF7FFFFF⟩

/-- The absolute value of a finite magnitude, counted in least units.  Magnitudes below `2 ^ 24`
count the units themselves; from there on each step of the exponent doubles them. -/
def units (magnitude : Nat) : Nat :=
  let exponent := magnitude / binade
  let fraction := magnitude % binade
  if exponent = 0 then fraction else (binade + fraction) * Nat.pow 2 (exponent - 1)

/-! ## Rounding -/

/-- The whole number nearest to `num / den`, a tie going to the even one. -/
def divNearest (num den : Nat) : Nat :=
  let quotient := num / den
  let twice := 2 * (num % den)
  if twice < den ∨ (twice = den ∧ quotient % 2 = 0) then quotient else quotient + 1

/-- How many low bits a value of `num / den` least units gives up to fit 24 significant bits. -/
def excess (num den : Nat) : Nat := (num / den).log2 - 23

/-- The magnitude of the float nearest to `num / den`. -/
def nearest (num den : Nat) : Nat :=
  let scaled := num * Nat.pow 2 149
  let shift := excess scaled den
  min (shift * binade + divNearest scaled (den * Nat.pow 2 shift)) infinite

def ofRatio (negative : Bool) (num den : Nat) : Binary32 := ofParts negative (nearest num den)

def ofInt (n : Int) : Binary32 := ofRatio (decide (n < 0)) n.natAbs 1

end Binary32

end Fieldbus
