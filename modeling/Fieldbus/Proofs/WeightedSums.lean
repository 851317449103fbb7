import Fieldbus.Proofs.LittleEndianWords
import Fieldbus.Wire
import Mathlib.Data.Int.ModEq
import Mathlib.Tactic.Ring

/-!
# The checksum as two weighted sums

Each running sum of the checksum is, modulo 255, a sum of the bytes in which every place has a fixed
weight: one for the plain sum, and the distance from the end for the other. Both are kept below 255
at every byte, so that no addition overflows and the two sums can be read off the checksum.
-/

namespace Fieldbus

/-- The sum of the bytes, each times the weight of its place. -/
def weigh (weight : Nat → Int) : List UInt8 → Int
  | [] => 0
  | byte :: bytes => weight 0 * byte.toNat + weigh (fun i => weight (i + 1)) bytes

lemma weigh_congr {weight weight' : Nat → Int} {bytes : List UInt8}
    (h : ∀ i < bytes.length, weight i = weight' i) : weigh weight bytes = weigh weight' bytes := by
  induction bytes generalizing weight weight' with
  | nil => rfl
  | cons byte bytes ih =>
    rw [weigh, weigh, h 0 (Nat.succ_pos _)]
    congr 1
    apply ih
    intro i hi
    exact h (i + 1) (Nat.succ_lt_succ hi)

lemma weigh_eq_zero {weight : Nat → Int} {bytes : List UInt8}
    (h : ∀ i < bytes.length, weight i = 0) : weigh weight bytes = 0 := by
  induction bytes generalizing weight with
  | nil => rfl
  | cons byte bytes ih =>
    rw [weigh, h 0 (Nat.succ_pos _), ih fun i hi => h (i + 1) (Nat.succ_lt_succ hi)]
    ring

lemma weigh_append (weight : Nat → Int) (xs ys : List UInt8) :
    weigh weight (xs ++ ys) = weigh weight xs + weigh (fun i => weight (xs.length + i)) ys := by
  induction xs generalizing weight with
  | nil => simp [weigh]
  | cons x xs ih =>
    rw [List.cons_append, weigh, weigh, ih, add_assoc]
    congr 2
    apply weigh_congr
    intro i _
    congr 1
    simp only [List.length_cons]
    omega

lemma weigh_modify (weight : Nat → Int) (f : UInt8 → UInt8) {bytes : List UInt8} {i : Nat}
    (h : i < bytes.length) :
    weigh weight (bytes.modify i f) =
      weigh weight bytes + weight i * ((f bytes[i]).toNat - bytes[i].toNat) := by
  induction bytes generalizing weight i with
  | nil => exact absurd h (Nat.not_lt_zero i)
  | cons byte bytes ih =>
    cases i with
    | zero =>
      simp only [List.modify_zero_cons, List.getElem_cons_zero, weigh]
      ring
    | succ i =>
      have hi : i < bytes.length := Nat.lt_of_succ_lt_succ h
      simp only [List.modify_succ_cons, List.getElem_cons_succ, weigh, ih _ hi]
      ring

namespace Sums

def Reduced (sums : Sums) : Prop := sums.plain.toNat < 255 ∧ sums.weighted.toNat < 255

lemma toNat_plain_add {sums : Sums} (h : sums.Reduced) (byte : UInt8) :
    (sums.add byte).plain.toNat = (sums.plain.toNat + byte.toNat) % 255 := by
  have hplain := h.1
  have hbyte := byte.toNat_lt
  simp only [add, UInt16.toNat_mod, UInt16.toNat_add, UInt8.toNat_toUInt16]
  change (sums.plain.toNat + byte.toNat) % 65536 % 255 = (sums.plain.toNat + byte.toNat) % 255
  omega

lemma toNat_weighted_add {sums : Sums} (h : sums.Reduced) (byte : UInt8) :
    (sums.add byte).weighted.toNat =
      (sums.weighted.toNat + (sums.add byte).plain.toNat) % 255 := by
  have hweighted := h.2
  have hplain : (sums.add byte).plain.toNat < 255 := by
    rw [toNat_plain_add h]
    omega
  change (sums.weighted.toNat + (sums.add byte).plain.toNat) % 65536 % 255 = _
  omega

lemma reduced_add {sums : Sums} (h : sums.Reduced) (byte : UInt8) : (sums.add byte).Reduced := by
  rw [Reduced, toNat_plain_add h, toNat_weighted_add h]
  omega

lemma plain_add_modEq {sums : Sums} (h : sums.Reduced) (byte : UInt8) :
    ((sums.add byte).plain.toNat : Int) ≡ sums.plain.toNat + byte.toNat [ZMOD 255] := by
  rw [toNat_plain_add h]
  push_cast
  exact Int.mod_modEq _ _

lemma reduced_foldl {sums : Sums} (h : sums.Reduced) (bytes : List UInt8) :
    (bytes.foldl add sums).Reduced := by
  induction bytes generalizing sums with
  | nil => exact h
  | cons byte bytes ih => exact ih (reduced_add h byte)

lemma plain_foldl {sums : Sums} (h : sums.Reduced) (bytes : List UInt8) :
    ((bytes.foldl add sums).plain.toNat : Int) ≡
      sums.plain.toNat + weigh (fun _ => 1) bytes [ZMOD 255] := by
  induction bytes generalizing sums with
  | nil => simp [weigh]
  | cons byte bytes ih =>
    calc ((bytes.foldl add (sums.add byte)).plain.toNat : Int)
        ≡ (sums.add byte).plain.toNat + weigh (fun _ => 1) bytes [ZMOD 255] :=
          ih (reduced_add h byte)
      _ ≡ sums.plain.toNat + byte.toNat + weigh (fun _ => 1) bytes [ZMOD 255] :=
          (plain_add_modEq h byte).add_right _
      _ = sums.plain.toNat + weigh (fun _ => 1) (byte :: bytes) := by
          rw [weigh]
          ring

/-- The start of the plain sum enters the other one once for every byte. -/
lemma weighted_foldl {sums : Sums} (h : sums.Reduced) (bytes : List UInt8) :
    ((bytes.foldl add sums).weighted.toNat : Int) ≡
      sums.weighted.toNat + bytes.length * sums.plain.toNat +
        weigh (fun i => bytes.length - i) bytes [ZMOD 255] := by
  induction bytes generalizing sums with
  | nil => simp [weigh]
  | cons byte bytes ih =>
    have hplain := plain_add_modEq h byte
    have hweighted : ((sums.add byte).weighted.toNat : Int) ≡
        sums.weighted.toNat + (sums.plain.toNat + byte.toNat) [ZMOD 255] := by
      rw [toNat_weighted_add h]
      push_cast
      exact (Int.mod_modEq _ _).trans (hplain.add_left _)
    have hweights : weigh (fun i => ((byte :: bytes).length : Int) - i) (byte :: bytes) =
        (bytes.length + 1) * byte.toNat + weigh (fun i => bytes.length - i) bytes := by
      have htail : weigh (fun i => ((byte :: bytes).length : Int) - (i + 1 : Nat)) bytes =
          weigh (fun i => bytes.length - i) bytes := by
        apply weigh_congr
        intro i _
        simp only [List.length_cons]
        push_cast
        ring
      rw [weigh, htail, List.length_cons]
      push_cast
      ring
    calc ((bytes.foldl add (sums.add byte)).weighted.toNat : Int)
        ≡ (sums.add byte).weighted.toNat + bytes.length * (sums.add byte).plain.toNat +
            weigh (fun i => bytes.length - i) bytes [ZMOD 255] := ih (reduced_add h byte)
      _ ≡ sums.weighted.toNat + (sums.plain.toNat + byte.toNat) +
            bytes.length * (sums.plain.toNat + byte.toNat) +
            weigh (fun i => bytes.length - i) bytes [ZMOD 255] :=
          (hweighted.add (hplain.mul_left _)).add_right _
      _ = sums.weighted.toNat + (byte :: bytes).length * sums.plain.toNat +
            weigh (fun i => (byte :: bytes).length - i) (byte :: bytes) := by
          rw [hweights, List.length_cons]
          push_cast
          ring

lemma toNat_word {sums : Sums} (h : sums.Reduced) :
    sums.word.toNat = sums.weighted.toNat + 256 * sums.plain.toNat := by
  have hplain := h.1
  have hweighted : sums.weighted.toNat < 2 ^ 8 := h.2.trans (by decide)
  have hshift : (sums.plain <<< 8).toNat = sums.plain.toNat <<< 8 := by
    rw [UInt16.toNat_shiftLeft, Nat.shiftLeft_eq, Nat.shiftLeft_eq]
    change sums.plain.toNat * 2 ^ 8 % 2 ^ 16 = sums.plain.toNat * 2 ^ 8
    omega
  rw [word, UInt16.toNat_or, hshift, Nat.or_comm]
  exact LittleEndian.or_shiftLeft hweighted _

lemma reduced_zero : zero.Reduced := ⟨by decide, by decide⟩

end Sums

lemma modEq_of_decode16_eq_checksum {stored body : List UInt8}
    (h : LittleEndian.decode16 stored = checksum body) :
    ((stored.getD 0 0).toNat : Int) ≡ weigh (fun i => body.length - i) body [ZMOD 255] ∧
      ((stored.getD 1 0).toNat : Int) ≡ weigh (fun _ => 1) body [ZMOD 255] := by
  have hreduced := Sums.reduced_foldl Sums.reduced_zero body
  have hnat := congrArg UInt16.toNat h
  rw [checksum, LittleEndian.toNat_decode16, Sums.toNat_word hreduced] at hnat
  have h₀ := (stored.getD 0 0).toNat_lt
  have h₁ := (stored.getD 1 0).toNat_lt
  obtain ⟨hplain, hweighted⟩ := hreduced
  have hlow : (stored.getD 0 0).toNat = (body.foldl Sums.add Sums.zero).weighted.toNat := by omega
  have hhigh : (stored.getD 1 0).toNat = (body.foldl Sums.add Sums.zero).plain.toNat := by omega
  rw [hlow, hhigh]
  constructor
  · simpa [Sums.zero] using Sums.weighted_foldl Sums.reduced_zero body
  · simpa [Sums.zero] using Sums.plain_foldl Sums.reduced_zero body

end Fieldbus
