/-!
# UTF-8

Encoding of characters, and a decoder that reads one byte at a time.  Its output marks every
maximal ill-formed run of bytes by `none`: a run ends before the first byte that no character
beginning with it can hold next.  Strict decoding refuses such runs, lossy decoding shows each as
one replacement character.
-/

namespace Fieldbus.Utf8

def encode (text : List Char) : List UInt8 := text.flatMap String.utf8EncodeChar

/-- What the decoder waits for: a new character, or `left + 1` more bytes of one whose bits so far
are `bits`, the next of them between `lo` and `hi`. -/
inductive State where
  | start
  | inside (left : Nat) (lo hi : UInt8) (bits : Nat)
deriving DecidableEq

/-- The items that a byte completes, and the state after it. -/
abbrev Step := List (Option Char) × State

def lead (byte : UInt8) : Step :=
  if byte < 0x80 then ([some (Char.ofNat byte.toNat)], .start)
  else if 0xC2 ≤ byte ∧ byte ≤ 0xDF then ([], .inside 0 0x80 0xBF (byte.toNat % 0x20))
  else if byte = 0xE0 then ([], .inside 1 0xA0 0xBF 0)
  else if byte = 0xED then ([], .inside 1 0x80 0x9F 0xD)
  else if 0xE1 ≤ byte ∧ byte ≤ 0xEF then ([], .inside 1 0x80 0xBF (byte.toNat % 0x10))
  else if byte = 0xF0 then ([], .inside 2 0x90 0xBF 0)
  else if 0xF1 ≤ byte ∧ byte ≤ 0xF3 then ([], .inside 2 0x80 0xBF (byte.toNat % 0x08))
  else if byte = 0xF4 then ([], .inside 2 0x80 0x8F 4)
  else ([none], .start)

/-- The step for any byte.  One that cannot continue the character begins anew. -/
def step : State → UInt8 → Step
  | .start, byte => lead byte
  | .inside left lo hi bits, byte =>
    if lo ≤ byte ∧ byte ≤ hi then
      let bits := bits * 0x40 + byte.toNat % 0x40
      match left with
      | 0 => ([some (Char.ofNat bits)], .start)
      | left + 1 => ([], .inside left 0x80 0xBF bits)
    else
      let (items, state) := lead byte
      (none :: items, state)

def itemsFrom : State → List UInt8 → List (Option Char)
  | .start, [] => []
  | .inside .., [] => [none]
  | state, byte :: bytes =>
    let (items, state) := step state byte
    items ++ itemsFrom state bytes

/-- The characters of a byte list in order, with `none` for every maximal ill-formed run. -/
def items (bytes : List UInt8) : List (Option Char) := itemsFrom .start bytes

def decode? (bytes : List UInt8) : Option (List Char) := (items bytes).mapM id

/-- The text of the bytes, with U+FFFD for every maximal ill-formed run. -/
def decodeLossy (bytes : List UInt8) : List Char := (items bytes).map (·.getD '\ufffd')

end Fieldbus.Utf8
