import Fieldbus.Binary32.Basic

/-!
# The shortest decimal that reads back

Among the decimals that round to a float, the one with the fewest digits, and of those the one
nearest to it.  The search goes from coarse to fine powers of ten; on each grid only the two
neighbours of the float can be the answer.  The finest grid holds every float exactly.
-/

namespace Fieldbus

/-- The decimal `digits * 10 ^ exponent`. -/
structure Decimal where
  digits : Nat
  exponent : Int
deriving DecidableEq

namespace Decimal

def num (d : Decimal) : Nat := d.digits * Nat.pow 10 d.exponent.toNat

def den (d : Decimal) : Nat := Nat.pow 10 (-d.exponent).toNat

end Decimal

/-- Where a number halfway between two decimals goes. -/
inductive Tie where
  | up
  | even
deriving DecidableEq

namespace Binary32

def readsBack (magnitude : Nat) (d : Decimal) : Bool := decide (nearest d.num d.den = magnitude)

/-- Of the two whole numbers next to `num / den`, the nearer one. -/
def nearer (tie : Tie) (num den : Nat) : Nat :=
  let twice := 2 * (num % den)
  if twice < den then num / den
  else if den < twice then num / den + 1
  else match tie with
    | .up => num / den + 1
    | .even => if num / den % 2 = 0 then num / den else num / den + 1

/-- Of two candidates the one that passes a test; the preferred one if both do. -/
def passing? (test : Nat → Bool) (below above preferred : Nat) : Option Nat :=
  match test below, test above with
  | true, true => some preferred
  | true, false => some below
  | false, true => some above
  | false, false => none

/-- Of the two multiples of `10 ^ exponent` next to a finite magnitude, the one that reads back;
the nearer one if both do. -/
def onGrid? (tie : Tie) (magnitude : Nat) (exponent : Int) : Option Decimal :=
  let num := units magnitude * Nat.pow 10 (-exponent).toNat
  let den := Nat.pow 2 149 * Nat.pow 10 exponent.toNat
  (passing? (fun digits => readsBack magnitude ⟨digits, exponent⟩) (num / den) (num / den + 1)
    (nearer tie num den)).map (⟨·, exponent⟩)

/-- The shortest decimal for a finite magnitude other than zero. -/
def shortest (tie : Tie) (magnitude : Nat) : Decimal :=
  ((List.range 189).findSome? fun (i : Nat) => onGrid? tie magnitude (39 - (i : Int))).getD ⟨0, 0⟩

end Binary32

end Fieldbus
