import Fieldbus.Proofs.WeightedSums
import Mathlib.Algebra.BigOperators.Fin

/-!
# The checksum in closed form

The two bytes of the checksum are the plain sum of the bytes and their sum weighted by the distance
from the end, both modulo 255. The loop reduces both sums at every byte; it therefore never leaves
sixteen bits, and neither byte of the result is 255.

Replacing bytes moves both sums by the differences, each times the weight of its place, and the
checksum stays the same exactly if both move by a multiple of 255. For two bytes this is a condition
on the differences and the distance between the places. A single byte, or each of two neighbours,
goes unnoticed only where 00 and FF stand for each other, since they are the same modulo 255.
-/

namespace Fieldbus

/-- The sum of the bytes, modulo 255. -/
def plainSum (bytes : List UInt8) : Nat := (∑ i : Fin bytes.length, bytes[i].toNat) % 255

/-- The sum of the bytes, each times its distance from the end, modulo 255. -/
def weightedSum (bytes : List UInt8) : Nat :=
  (∑ i : Fin bytes.length, (bytes.length - i) * bytes[i].toNat) % 255

lemma plainSum_lt (bytes : List UInt8) : plainSum bytes < 255 := Nat.mod_lt _ (by decide)

lemma weightedSum_lt (bytes : List UInt8) : weightedSum bytes < 255 := Nat.mod_lt _ (by decide)

lemma weigh_eq_sum (weight : Nat → Int) (bytes : List UInt8) :
    weigh weight bytes = ∑ i : Fin bytes.length, weight i * bytes[i].toNat := by
  induction bytes generalizing weight with
  | nil => simp [weigh]
  | cons byte bytes ih =>
    change _ = ∑ i : Fin (bytes.length + 1), _
    rw [weigh, ih, Fin.sum_univ_succ]
    rfl

lemma weigh_one_modEq (bytes : List UInt8) :
    weigh (fun _ => 1) bytes ≡ plainSum bytes [ZMOD 255] := by
  have hsum : weigh (fun _ => 1) bytes =
      ((∑ i : Fin bytes.length, bytes[i].toNat : Nat) : Int) := by
    rw [weigh_eq_sum]
    push_cast
    simp only [one_mul]
  rw [hsum, plainSum]
  exact Int.natCast_modEq_iff.mpr (Nat.mod_modEq _ _).symm

lemma weigh_distance_modEq (bytes : List UInt8) :
    weigh (fun i => bytes.length - i) bytes ≡ weightedSum bytes [ZMOD 255] := by
  have hsum : weigh (fun i => bytes.length - i) bytes =
      ((∑ i : Fin bytes.length, (bytes.length - i) * bytes[i].toNat : Nat) : Int) := by
    rw [weigh_eq_sum]
    push_cast
    apply Finset.sum_congr rfl
    intro i _
    rw [Nat.cast_sub i.isLt.le]
  rw [hsum, weightedSum]
  exact Int.natCast_modEq_iff.mpr (Nat.mod_modEq _ _).symm

lemma eq_iff_modEq {a b : Int} {m n : Nat} (ha : a ≡ m [ZMOD 255]) (hb : b ≡ n [ZMOD 255])
    (hm : m < 255) (hn : n < 255) : m = n ↔ a ≡ b [ZMOD 255] := by
  constructor
  · rintro rfl
    exact ha.trans hb.symm
  · intro h
    have hmod := ha.symm.trans (h.trans hb)
    exact (Int.natCast_modEq_iff.mp hmod).eq_of_lt_of_lt hm hn

namespace Sums

lemma toNat_plain (bytes : List UInt8) :
    (bytes.foldl add zero).plain.toNat = plainSum bytes := by
  have hrun := plain_foldl reduced_zero bytes
  rw [show (zero.plain.toNat : Int) = 0 from rfl, zero_add] at hrun
  have hlt := (reduced_foldl reduced_zero bytes).1
  exact (eq_iff_modEq hrun.symm (weigh_one_modEq bytes) hlt (plainSum_lt bytes)).mpr rfl

lemma toNat_weighted (bytes : List UInt8) :
    (bytes.foldl add zero).weighted.toNat = weightedSum bytes := by
  have hrun := weighted_foldl reduced_zero bytes
  rw [show (zero.plain.toNat : Int) = 0 from rfl, show (zero.weighted.toNat : Int) = 0 from rfl,
    mul_zero, zero_add, zero_add] at hrun
  have hlt := (reduced_foldl reduced_zero bytes).2
  exact (eq_iff_modEq hrun.symm (weigh_distance_modEq bytes) hlt (weightedSum_lt bytes)).mpr rfl

lemma Reduced.add_le {sums : Sums} (h : sums.Reduced) (byte : UInt8) :
    sums.plain.toNat + byte.toNat ≤ 65535 ∧
      sums.weighted.toNat + (sums.add byte).plain.toNat ≤ 65535 := by
  have hbyte := byte.toNat_lt
  have hnext := reduced_add h byte
  unfold Reduced at h hnext
  omega

end Sums

lemma toNat_checksum (bytes : List UInt8) :
    (checksum bytes).toNat = 256 * plainSum bytes + weightedSum bytes := by
  rw [checksum, Sums.toNat_word (Sums.reduced_foldl Sums.reduced_zero bytes), Sums.toNat_plain,
    Sums.toNat_weighted, Nat.add_comm]

lemma plainSum_append (front back : List UInt8) :
    plainSum (front ++ back) ≡ plainSum front + plainSum back [MOD 255] := by
  have hfront := Sums.reduced_foldl Sums.reduced_zero front
  have hrun := Sums.plain_foldl hfront back
  rw [← List.foldl_append, Sums.toNat_plain, Sums.toNat_plain] at hrun
  have hsum := hrun.trans ((weigh_one_modEq back).add_left _)
  exact Int.natCast_modEq_iff.mp (by exact_mod_cast hsum)

lemma weightedSum_append (front back : List UInt8) :
    weightedSum (front ++ back) ≡
      weightedSum front + back.length * plainSum front + weightedSum back [MOD 255] := by
  have hfront := Sums.reduced_foldl Sums.reduced_zero front
  -- The run over the second part starts from the sums of the first.
  have hrun := Sums.weighted_foldl hfront back
  rw [← List.foldl_append, Sums.toNat_weighted, Sums.toNat_weighted, Sums.toNat_plain] at hrun
  have hsum := hrun.trans ((weigh_distance_modEq back).add_left _)
  exact Int.natCast_modEq_iff.mp (by exact_mod_cast hsum)

lemma not_mem_encode16_checksum (bytes : List UInt8) :
    0xFF ∉ LittleEndian.encode16 (checksum bytes) := by
  have hplain := plainSum_lt bytes
  have hweighted := weightedSum_lt bytes
  have hnumber := (LittleEndian.number_encode16 (checksum bytes)).trans (toNat_checksum bytes)
  intro h
  simp only [LittleEndian.encode16, List.mem_cons, List.not_mem_nil, or_false] at h hnumber
  simp only [LittleEndian.number] at hnumber
  have hlow := (checksum bytes).toUInt8.toNat_lt
  have hff : (0xFF : UInt8).toNat = 255 := rfl
  rcases h with h | h <;> rw [← h, hff] at hnumber <;> omega

/-- On every byte list the checksum is the plain sum in the high byte and the sum weighted by the
distance from the end in the low byte, both modulo 255. No addition of the loop and not the last
shift leaves sixteen bits, and no byte of the checksum is 255. The sums of a list in two parts
follow from those of the parts. -/
theorem checksum_closed_form :
    (∀ bytes : List UInt8,
      (checksum bytes).toNat = 256 * plainSum bytes + weightedSum bytes ∧
      (∀ i : Fin bytes.length,
        let sums := (bytes.take i).foldl Sums.add Sums.zero
        sums.plain.toNat + bytes[i].toNat ≤ 65535 ∧
          sums.weighted.toNat + (sums.add bytes[i]).plain.toNat ≤ 65535) ∧
      256 * (bytes.foldl Sums.add Sums.zero).plain.toNat ≤ 65535 ∧
      0xFF ∉ LittleEndian.encode16 (checksum bytes)) ∧
    ∀ front back : List UInt8,
      plainSum (front ++ back) ≡ plainSum front + plainSum back [MOD 255] ∧
      weightedSum (front ++ back) ≡
        weightedSum front + back.length * plainSum front + weightedSum back [MOD 255] := by
  constructor
  · intro bytes
    have hreduced := Sums.reduced_foldl Sums.reduced_zero
    refine ⟨toNat_checksum bytes, ?_, ?_, not_mem_encode16_checksum bytes⟩
    · intro i
      exact (hreduced (bytes.take i)).add_le bytes[i]
    · have hplain := (hreduced bytes).1
      omega
  · intro front back
    exact ⟨plainSum_append front back, weightedSum_append front back⟩

/-! ## Replaced bytes -/

/-- The two bytes that are zero modulo 255, in either order. -/
def ZeroTwins (x y : UInt8) : Prop := x = 0x00 ∧ y = 0xFF ∨ x = 0xFF ∧ y = 0x00

lemma dvd_difference_iff (x y : UInt8) :
    (255 : Int) ∣ y.toNat - x.toNat ↔ y = x ∨ ZeroTwins x y := by
  have hx := x.toNat_lt
  have hy := y.toNat_lt
  have hzero : (0x00 : UInt8).toNat = 0 := rfl
  have hff : (0xFF : UInt8).toNat = 255 := rfl
  simp only [ZeroTwins, ← UInt8.toNat_inj, hzero, hff]
  omega

lemma checksum_eq_iff {xs ys : List UInt8} (hlen : xs.length = ys.length) :
    checksum xs = checksum ys ↔
      weigh (fun _ => 1) xs ≡ weigh (fun _ => 1) ys [ZMOD 255] ∧
        weigh (fun i => ys.length - i) xs ≡ weigh (fun i => ys.length - i) ys [ZMOD 255] := by
  have hxs := weightedSum_lt xs
  have hys := weightedSum_lt ys
  have hdistance := weigh_distance_modEq xs
  rw [hlen] at hdistance
  rw [← eq_iff_modEq (weigh_one_modEq xs) (weigh_one_modEq ys) (plainSum_lt xs) (plainSum_lt ys),
    ← eq_iff_modEq hdistance (weigh_distance_modEq ys) hxs hys, ← UInt16.toNat_inj,
    toNat_checksum, toNat_checksum]
  omega

section Replaced

variable {bytes : List UInt8} {i j : Nat} (x y : UInt8)

lemma weigh_set (weight : Nat → Int) (hi : i < bytes.length) :
    weigh weight (bytes.set i x) = weigh weight bytes + weight i * (x.toNat - bytes[i].toNat) := by
  rw [List.set_eq_modify, weigh_modify _ _ hi]

lemma weigh_set_set (weight : Nat → Int) (hij : i < j) (hj : j < bytes.length) :
    weigh weight ((bytes.set i x).set j y) = weigh weight bytes +
      (weight i * (x.toNat - bytes[i].toNat) + weight j * (y.toNat - bytes[j].toNat)) := by
  rw [weigh_set y weight (by rwa [List.length_set]), weigh_set x weight (hij.trans hj),
    List.getElem_set_ne (Nat.ne_of_lt hij), add_assoc]

lemma checksum_set_iff (hi : i < bytes.length) :
    checksum (bytes.set i x) = checksum bytes ↔ x = bytes[i] ∨ ZeroTwins bytes[i] x := by
  rw [checksum_eq_iff List.length_set, weigh_set x _ hi, weigh_set x _ hi,
    Int.add_modEq_left_iff, Int.add_modEq_left_iff, one_mul, dvd_difference_iff]
  -- What leaves the plain sum alone leaves every multiple of it alone.
  apply and_iff_left_of_imp
  intro h
  exact Dvd.dvd.mul_left ((dvd_difference_iff _ _).mpr h) _

lemma checksum_set_set_iff (hij : i < j) (hj : j < bytes.length) :
    checksum ((bytes.set i x).set j y) = checksum bytes ↔
      (255 : Int) ∣ (x.toNat - bytes[i].toNat) + (y.toNat - bytes[j].toNat) ∧
        (255 : Int) ∣ (j - i) * (x.toNat - bytes[i].toNat) := by
  have hlen : ((bytes.set i x).set j y).length = bytes.length := by
    rw [List.length_set, List.length_set]
  rw [checksum_eq_iff hlen, weigh_set_set x y _ hij hj, weigh_set_set x y _ hij hj,
    Int.add_modEq_left_iff, Int.add_modEq_left_iff, one_mul, one_mul]
  generalize (x.toNat : Int) - bytes[i].toNat = d
  generalize (y.toNat : Int) - bytes[j].toNat = e
  apply and_congr_right
  intro hsum
  have hsplit : ((bytes.length : Int) - i) * d + (bytes.length - j) * e =
      (j - i) * d + (bytes.length - j) * (d + e) := by ring
  rw [hsplit]
  exact Int.dvd_add_left (Dvd.dvd.mul_left hsum _)

lemma checksum_set_set_succ_iff (hi : i + 1 < bytes.length) :
    checksum ((bytes.set i x).set (i + 1) y) = checksum bytes ↔
      (x = bytes[i] ∨ ZeroTwins bytes[i] x) ∧ (y = bytes[i + 1] ∨ ZeroTwins bytes[i + 1] y) := by
  have hdistance : ((i + 1 : Nat) : Int) - i = 1 := by
    push_cast
    ring
  rw [checksum_set_set_iff x y (Nat.lt_succ_self i) hi, hdistance, one_mul, ← dvd_difference_iff,
    ← dvd_difference_iff, and_comm]
  apply and_congr_right
  intro hx
  exact Int.dvd_add_right hx

lemma checksum_exchange_iff (hij : i < j) (hj : j < bytes.length) :
    checksum ((bytes.set i bytes[j]).set j bytes[i]) = checksum bytes ↔
      (255 : Int) ∣ (j - i) * (bytes[i].toNat - bytes[j].toNat) := by
  rw [checksum_set_set_iff _ _ hij hj]
  have hcancel : ((bytes[j].toNat : Int) - bytes[i].toNat) +
      (bytes[i].toNat - bytes[j].toNat) = 0 := by ring
  have hneg : ((j : Int) - i) * (bytes[j].toNat - bytes[i].toNat) =
      -((j - i) * (bytes[i].toNat - bytes[j].toNat)) := by ring
  rw [hcancel, hneg, Int.dvd_neg]
  exact and_iff_right (Int.dvd_zero _)

end Replaced

/-- Two bytes are replaced without a trace exactly if 255 divides the sum of the differences, and
the first difference times the distance. So a single byte, and each of two neighbours, is replaced
without a trace only by itself or where 00 and FF stand for each other, and two bytes are exchanged
without a trace exactly if 255 divides their difference times the distance. -/
theorem checksum_blind_spots (bytes : List UInt8) :
    (∀ i j : Fin bytes.length, i < j → ∀ x y : UInt8,
      (checksum ((bytes.set i x).set j y) = checksum bytes ↔
        (255 : Int) ∣ (x.toNat - bytes[i].toNat) + (y.toNat - bytes[j].toNat) ∧
          (255 : Int) ∣ (j - i) * (x.toNat - bytes[i].toNat))) ∧
    (∀ (i : Fin bytes.length) (x : UInt8),
      checksum (bytes.set i x) = checksum bytes ↔ x = bytes[i] ∨ ZeroTwins bytes[i] x) ∧
    (∀ i j : Fin bytes.length, j.val = i.val + 1 → ∀ x y : UInt8,
      (checksum ((bytes.set i x).set j y) = checksum bytes ↔
        (x = bytes[i] ∨ ZeroTwins bytes[i] x) ∧ (y = bytes[j] ∨ ZeroTwins bytes[j] y))) ∧
    ∀ i j : Fin bytes.length, i < j →
      (checksum ((bytes.set i bytes[j]).set j bytes[i]) = checksum bytes ↔
        (255 : Int) ∣ (j - i) * (bytes[i].toNat - bytes[j].toNat)) := by
  refine ⟨?_, ?_, ?_, ?_⟩
  · intro i j hij x y
    exact checksum_set_set_iff x y hij j.isLt
  · intro i x
    exact checksum_set_iff x i.isLt
  · rintro i ⟨j, hj⟩ rfl x y
    exact checksum_set_set_succ_iff x y hj
  · intro i j hij
    exact checksum_exchange_iff hij j.isLt

/-- Two bytes that differ by 85 are exchanged three places apart without a trace, and so are 00 and
FF between them; differences that do not cancel are seen. -/
theorem checksum_blind_spots_three_apart :
    let bytes : List UInt8 := [100, 0x00, 0xFF, 185]
    checksum [185, 0x00, 0xFF, 100] = checksum bytes ∧
      checksum [100, 0xFF, 0xFF, 185] = checksum bytes ∧
      checksum [100, 0xFF, 0x00, 185] = checksum bytes ∧
      checksum [185, 0x00, 0xFF, 101] ≠ checksum bytes := by
  intro bytes
  obtain ⟨htwo, hone, hneighbours, hexchange⟩ := checksum_blind_spots bytes
  refine ⟨(hexchange 0 3 (by decide)).mpr (by decide), (hone 1 0xFF).mpr (.inr (.inl ⟨rfl, rfl⟩)),
    (hneighbours 1 2 rfl 0xFF 0x00).mpr ⟨.inr (.inl ⟨rfl, rfl⟩), .inr (.inr ⟨rfl, rfl⟩)⟩, ?_⟩
  exact mt (htwo 0 3 (by decide) 185 101).mp (by decide)

end Fieldbus
