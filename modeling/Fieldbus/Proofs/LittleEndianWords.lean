import Fieldbus.Wire
import Mathlib.Algebra.Group.Nat.Defs
import Mathlib.Tactic.Lemma

/-!
# Little-endian words as numbers

Joining bytes by shifts and bitwise or adds them with powers of 256 as weights. Read that way, the
bytes of a word give the word back, whatever bytes follow, and bytes of the right number are those
of the word that they stand for.
-/

namespace Fieldbus.LittleEndian

/-- A part below a power of two and a part shifted past it have no bit in common. -/
lemma or_shiftLeft {low k : Nat} (h : low < 2 ^ k) (high : Nat) :
    low ||| high <<< k = low + 2 ^ k * high := by
  rw [Nat.or_comm, Nat.shiftLeft_eq, Nat.mul_comm high, ← Nat.two_pow_add_eq_or_of_lt h high,
    Nat.add_comm]

lemma toNat_decode16 (bytes : List UInt8) :
    (decode16 bytes).toNat = (bytes.getD 0 0).toNat + 256 * (bytes.getD 1 0).toNat := by
  have h₀ := (bytes.getD 0 0).toNat_lt
  have h₁ := (bytes.getD 1 0).toNat_lt
  have hshift : ((bytes.getD 1 0).toUInt16 <<< 8).toNat = (bytes.getD 1 0).toNat <<< 8 := by
    rw [UInt16.toNat_shiftLeft, UInt8.toNat_toUInt16, Nat.shiftLeft_eq, Nat.shiftLeft_eq]
    change (bytes.getD 1 0).toNat * 2 ^ 8 % 2 ^ 16 = (bytes.getD 1 0).toNat * 2 ^ 8
    omega
  rw [decode16, UInt16.toNat_or, UInt8.toNat_toUInt16, hshift]
  exact or_shiftLeft h₀ _

lemma toNat_decode32 (bytes : List UInt8) :
    (decode32 bytes).toNat = (bytes.getD 0 0).toNat + 256 * (bytes.getD 1 0).toNat +
      65536 * (bytes.getD 2 0).toNat + 16777216 * (bytes.getD 3 0).toNat := by
  have h₀ := (bytes.getD 0 0).toNat_lt
  have h₁ := (bytes.getD 1 0).toNat_lt
  have h₂ := (bytes.getD 2 0).toNat_lt
  have h₃ := (bytes.getD 3 0).toNat_lt
  have hshift (x : UInt8) (k : UInt32) (hk : k.toNat ≤ 24) :
      (x.toUInt32 <<< k).toNat = x.toNat <<< k.toNat := by
    have hx := x.toNat_lt
    simp only [UInt32.toNat_shiftLeft, UInt8.toNat_toUInt32, Nat.shiftLeft_eq,
      Nat.mod_eq_of_lt (show k.toNat < 32 by omega)]
    have hpow : 2 ^ k.toNat ≤ 2 ^ 24 := Nat.pow_le_pow_right (by decide) hk
    have hmul := Nat.mul_lt_mul_of_lt_of_le hx hpow (by decide)
    exact Nat.mod_eq_of_lt (by simpa using hmul)
  rw [decode32, UInt32.toNat_or, UInt32.toNat_or, UInt32.toNat_or, UInt8.toNat_toUInt32,
    hshift _ 8 (by decide), hshift _ 16 (by decide), hshift _ 24 (by decide)]
  change (bytes.getD 0 0).toNat ||| (bytes.getD 1 0).toNat <<< 8 |||
    (bytes.getD 2 0).toNat <<< 16 ||| (bytes.getD 3 0).toNat <<< 24 = _
  -- every partial sum stays below the next shift
  have h₀₁ : (bytes.getD 0 0).toNat + 2 ^ 8 * (bytes.getD 1 0).toNat < 2 ^ 16 := by omega
  have h₀₂ : (bytes.getD 0 0).toNat + 2 ^ 8 * (bytes.getD 1 0).toNat +
      2 ^ 16 * (bytes.getD 2 0).toNat < 2 ^ 24 := by omega
  rw [or_shiftLeft h₀, or_shiftLeft h₀₁]
  exact or_shiftLeft h₀₂ _

lemma decode16_encode16 (word : UInt16) (rest : List UInt8) :
    decode16 (encode16 word ++ rest) = word := by
  have hword := word.toNat_lt
  apply UInt16.toNat_inj.mp
  rw [toNat_decode16]
  simp only [encode16, List.cons_append, List.getD_cons_zero, List.getD_cons_succ,
    UInt16.toNat_toUInt8, UInt16.toNat_shiftRight, Nat.shiftRight_eq_div_pow]
  change word.toNat % 256 + 256 * (word.toNat / 256 % 256) = word.toNat
  omega

lemma decode32_encode32 (word : UInt32) (rest : List UInt8) :
    decode32 (encode32 word ++ rest) = word := by
  have hword := word.toNat_lt
  apply UInt32.toNat_inj.mp
  rw [toNat_decode32]
  simp only [encode32, List.cons_append, List.getD_cons_zero, List.getD_cons_succ,
    UInt32.toNat_toUInt8, UInt32.toNat_shiftRight, Nat.shiftRight_eq_div_pow]
  change word.toNat % 256 + 256 * (word.toNat / 256 % 256) + 65536 * (word.toNat / 65536 % 256) +
    16777216 * (word.toNat / 16777216 % 256) = word.toNat
  omega

/-- The number that bytes stand for, the least significant first. -/
def number : List UInt8 → Nat
  | [] => 0
  | byte :: bytes => byte.toNat + 256 * number bytes

lemma number_singleton (byte : UInt8) : number [byte] = byte.toNat := by
  simp [number]

lemma eq_of_number_eq {xs ys : List UInt8} (hlen : xs.length = ys.length)
    (h : number xs = number ys) : xs = ys := by
  induction xs generalizing ys with
  | nil => exact (List.length_eq_zero_iff.mp hlen.symm).symm
  | cons x xs ih =>
    cases ys with
    | nil => simp at hlen
    | cons y ys =>
      have hx := x.toNat_lt
      have hy := y.toNat_lt
      simp only [number] at h
      have hhead : x.toNat = y.toNat := by omega
      have htail : number xs = number ys := by omega
      rw [UInt8.toNat_inj.mp hhead, ih (by simpa using hlen) htail]

lemma toNat_decode16_eq_number {bytes : List UInt8} (h : bytes.length = 2) :
    (decode16 bytes).toNat = number bytes := by
  match bytes, h with
  | [_, _], _ =>
    rw [toNat_decode16]
    simp [number]

lemma toNat_decode32_eq_number {bytes : List UInt8} (h : bytes.length = 4) :
    (decode32 bytes).toNat = number bytes := by
  match bytes, h with
  | [_, _, _, _], _ =>
    rw [toNat_decode32]
    simp only [number, List.getD_cons_zero, List.getD_cons_succ]
    omega

lemma number_encode16 (word : UInt16) : number (encode16 word) = word.toNat := by
  have hword := decode16_encode16 word []
  rw [List.append_nil] at hword
  rw [← toNat_decode16_eq_number (length_encode16 word), hword]

lemma number_encode32 (word : UInt32) : number (encode32 word) = word.toNat := by
  have hword := decode32_encode32 word []
  rw [List.append_nil] at hword
  rw [← toNat_decode32_eq_number (length_encode32 word), hword]

lemma encode16_decode16 {bytes : List UInt8} (h : bytes.length = 2) :
    encode16 (decode16 bytes) = bytes := by
  apply eq_of_number_eq
  · rw [length_encode16, h]
  · rw [number_encode16, toNat_decode16_eq_number h]

lemma encode32_decode32 {bytes : List UInt8} (h : bytes.length = 4) :
    encode32 (decode32 bytes) = bytes := by
  apply eq_of_number_eq
  · rw [length_encode32, h]
  · rw [number_encode32, toNat_decode32_eq_number h]

lemma decode16_take (bytes : List UInt8) : decode16 (bytes.take 2) = decode16 bytes := by
  match bytes with
  | [] | [_] | _ :: _ :: _ => rfl

end Fieldbus.LittleEndian
