/-!
# Clamping into a range

A value below the range, or not comparable with its lower end, becomes the lower end; a value
above it becomes the upper end.  Ranges are plain pairs and may be empty, with the lower end
above the upper one.
-/

namespace Fieldbus

/-- Moves `v` into `[lo, hi]`.  A value that does not compare with `lo` becomes `lo`. -/
def clamp {α : Type} [LE α] [LT α] [DecidableLE α] [DecidableLT α] (lo v hi : α) : α :=
  if lo ≤ v then if hi < v then hi else v else lo

structure Bounds (α : Type) where
  min : α
  max : α
deriving DecidableEq

/-- Fixed-width integers: a reading as an integer, and the way back where the integer fits. -/
class Narrow (α : Type) where
  toInt : α → Int
  ofInt? : Int → Option α

namespace Narrow

def within (lo hi : Int) {α : Type} (f : Int → α) (n : Int) : Option α :=
  if lo ≤ n ∧ n ≤ hi then some (f n) else none

instance : Narrow Int8 := ⟨Int8.toInt, within (-128) 127 Int8.ofInt⟩

instance : Narrow Int16 := ⟨Int16.toInt, within (-32768) 32767 Int16.ofInt⟩

instance : Narrow Int32 := ⟨Int32.toInt, within (-2147483648) 2147483647 Int32.ofInt⟩

instance : Narrow UInt8 := ⟨fun v => v.toNat, within 0 255 UInt8.ofInt⟩

end Narrow

namespace Bounds

variable {α : Type}

def apply [LE α] [LT α] [DecidableLE α] [DecidableLT α] (range : Bounds α) (v : α) : α :=
  clamp range.min v range.max

def contains [LE α] [DecidableLE α] (range : Bounds α) (v : α) : Bool :=
  decide (range.min ≤ v) && decide (v ≤ range.max)

/-- Clamps an integer of any size, then narrows it to the range's own type. -/
def applyWide [Narrow α] (range : Bounds α) (v : Int) : α :=
  (Narrow.ofInt? (clamp (Narrow.toInt range.min) v (Narrow.toInt range.max))).getD range.max

end Bounds

end Fieldbus
