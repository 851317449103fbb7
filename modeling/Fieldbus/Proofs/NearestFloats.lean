import Fieldbus.Proofs.Clamping
import Fieldbus.Proofs.NumberText
import Fieldbus.Proofs.ShortestDecimals
import Mathlib.Algebra.Order.Field.Basic
import Mathlib.Algebra.Order.Field.Rat
import Mathlib.Tactic.FieldSimp
import Mathlib.Tactic.Linarith
import Mathlib.Tactic.NormNum
import Mathlib.Tactic.Positivity

/-!
# The nearest float

The finite floats lie on the line of rational numbers in the order of their ranks, so that rounding
is a question about integers: which place is the nearest to a number, an even one if two are. The
places go on beyond the greatest float, and a number whose nearest place lies there becomes
infinite. Rounding never passes a float, and hence it does not matter whether a number is rounded
and then clamped between two floats or clamped and then rounded.
-/

namespace Fieldbus.Binary32

/-! ## Places -/

lemma units_strictMono : StrictMono units := by
  apply strictMono_nat_of_lt_succ
  intro m
  obtain ⟨e, k, rfl, hk, h⟩ := exists_grid m
  have hpow : 0 < Nat.pow 2 e := Nat.pow_pos (by decide)
  rw [Nat.add_assoc, units_grid (Nat.le_of_lt hk) h, units_grid hk (by omega)]
  exact Nat.mul_lt_mul_of_pos_right k.lt_succ_self hpow

/-- The number at a place in the order of the floats. -/
def place (z : ℤ) : ℚ := z.sign * units z.natAbs / 2 ^ 149

@[simp] lemma place_neg (z : ℤ) : place (-z) = -place z := by
  simp [place, neg_div]

lemma place_natCast (m : Nat) : place m = units m / 2 ^ 149 := by
  cases m with
  | zero =>
    have hzero : units 0 = 0 := rfl
    simp [place, hzero]
  | succ m =>
    have hsign : ((m + 1 : Nat) : ℤ).sign = 1 := Int.sign_eq_one_of_pos (by omega)
    rw [place, hsign, Int.natAbs_natCast, Int.cast_one, one_mul]

lemma place_natCast_lt (m : Nat) : place m < place (m + 1 : Nat) := by
  have hunits : (units m : ℚ) < units (m + 1) := by
    exact_mod_cast units_strictMono m.lt_succ_self
  rw [place_natCast, place_natCast]
  gcongr

lemma place_lt_iff {z w : ℤ} : place z < place w ↔ z < w := by
  have hmono : StrictMono place := by
    apply strictMono_int_of_lt_succ
    intro z
    cases z with
    | ofNat m => exact place_natCast_lt m
    | negSucc m =>
      rw [Int.negSucc_eq, show -((m : ℤ) + 1) + 1 = -m by ring, place_neg, place_neg]
      exact neg_lt_neg (place_natCast_lt m)
  exact hmono.lt_iff_lt

lemma place_le_iff {z w : ℤ} : place z ≤ place w ↔ z ≤ w := by
  rw [← not_lt, place_lt_iff, not_lt]

lemma place_inj {z w : ℤ} : place z = place w ↔ z = w := by
  rw [le_antisymm_iff, place_le_iff, place_le_iff, ← le_antisymm_iff]

lemma place_zero : place 0 = 0 := by simp [place]

/-- The number that a finite float stands for. -/
def toRat (x : Binary32) : ℚ := (if x.isNegative then -1 else 1) * units x.magnitude / 2 ^ 149

lemma toRat_eq_place (x : Binary32) : x.toRat = place x.rank := by
  unfold toRat rank
  cases x.isNegative <;> simp [place_natCast, neg_div]

lemma toRat_le_iff {x y : Binary32} : x.toRat ≤ y.toRat ↔ x.rank ≤ y.rank := by
  rw [toRat_eq_place, toRat_eq_place, place_le_iff]

lemma toRat_lt_iff {x y : Binary32} : x.toRat < y.toRat ↔ x.rank < y.rank := by
  rw [← not_le, toRat_le_iff, not_le]

/-- No place is nearer to the number, and if another is as near, this one is even. -/
structure NearestPlace (q : ℚ) (z : ℤ) : Prop where
  le : ∀ w, |place z - q| ≤ |place w - q|
  even : ∀ w, w ≠ z → |place w - q| = |place z - q| → z % 2 = 0

namespace NearestPlace

variable {q : ℚ} {z w : ℤ}

lemma neg (h : NearestPlace q z) : NearestPlace (-q) (-z) := by
  have habs (v : ℤ) : |place (-v) - -q| = |place v - q| := by
    rw [place_neg, ← neg_sub', abs_neg]
  have hswap (v : ℤ) : |place v - -q| = |place (-v) - q| := by
    rw [← habs, neg_neg]
  constructor
  · intro w
    rw [habs, hswap]
    exact h.le (-w)
  · intro w hne heq
    rw [habs, hswap] at heq
    have heven := h.even (-w) (by omega) heq
    omega

lemma of_below (hlo : place z ≤ q) (hhalf : 2 * q ≤ place z + place (z + 1))
    (heven : 2 * q = place z + place (z + 1) → z % 2 = 0) : NearestPlace q z := by
  have hself : |place z - q| = q - place z := by rw [abs_of_nonpos (by linarith), neg_sub]
  have hbelow {w : ℤ} (hw : w ≤ z) : place w ≤ place z ∧ |place w - q| = q - place w := by
    have hle := place_le_iff.mpr hw
    exact ⟨hle, by rw [abs_of_nonpos (by linarith), neg_sub]⟩
  have habove {w : ℤ} (hw : ¬w ≤ z) : place (z + 1) ≤ place w ∧ |place w - q| = place w - q := by
    have hle := place_le_iff.mpr (show z + 1 ≤ w by omega)
    exact ⟨hle, abs_of_nonneg (by linarith)⟩
  constructor
  · intro w
    by_cases hw : w ≤ z
    · obtain ⟨hle, hdist⟩ := hbelow hw
      linarith
    · obtain ⟨hle, hdist⟩ := habove hw
      linarith
  · intro w hne heq
    by_cases hw : w ≤ z
    · obtain ⟨-, hdist⟩ := hbelow hw
      exact absurd (place_inj.mp (by linarith)) hne
    · obtain ⟨hle, hdist⟩ := habove hw
      exact heven (by linarith)

lemma of_above (hhi : q ≤ place (z + 1)) (hhalf : place z + place (z + 1) ≤ 2 * q)
    (heven : 2 * q = place z + place (z + 1) → (z + 1) % 2 = 0) : NearestPlace q (z + 1) := by
  have hnext : -(z + 1) + 1 = -z := by ring
  have hneg : NearestPlace (-q) (-(z + 1)) := by
    apply of_below
    · rw [place_neg]
      linarith
    · rw [hnext, place_neg, place_neg]
      linarith
    · intro heq
      rw [hnext, place_neg, place_neg] at heq
      have := heven (by linarith)
      omega
  simpa using hneg.neg

lemma le_of_place_le (h : NearestPlace q z) (hw : place w ≤ q) : w ≤ z := by
  by_contra hlt
  have hplace := place_lt_iff.mpr (Int.not_le.mp hlt)
  have hle := h.le w
  rw [abs_of_nonpos (by linarith), abs_of_nonpos (by linarith)] at hle
  linarith

lemma le_of_le_place (h : NearestPlace q z) (hw : q ≤ place w) : z ≤ w := by
  have hle := h.neg.le_of_place_le (w := -w) (by rw [place_neg]; linarith)
  omega

end NearestPlace

/-! ## Rounding -/

lemma divNearest_cases (num den : Nat) :
    divNearest num den = num / den ∧ 2 * num ≤ (2 * (num / den) + 1) * den ∧
        (2 * num = (2 * (num / den) + 1) * den → num / den % 2 = 0) ∨
      divNearest num den = num / den + 1 ∧ (2 * (num / den) + 1) * den ≤ 2 * num ∧
        (2 * num = (2 * (num / den) + 1) * den → (num / den + 1) % 2 = 0) := by
  have hsplit := Nat.div_add_mod' num den
  have hmiddle : (2 * (num / den) + 1) * den = 2 * (num / den * den) + den := by ring
  rw [hmiddle]
  simp only [divNearest]
  by_cases h : 2 * (num % den) < den ∨ 2 * (num % den) = den ∧ num / den % 2 = 0
  · rw [if_pos h]
    left
    omega
  · rw [if_neg h]
    right
    omega

/-- What is left of a number in least units after its excess bits are given up has 24 bits, and all
of them are used if there is any excess. -/
lemma coefficient_bounds (num den : Nat) :
    num / (den * Nat.pow 2 (excess num den)) < 2 * binade ∧
      (excess num den = 0 ∨ binade ≤ num / (den * Nat.pow 2 (excess num den))) := by
  have hbinade : binade = 2 ^ 23 := rfl
  have hpow : 0 < Nat.pow 2 (excess num den) := Nat.pow_pos (by decide)
  have hlt : num / den < 2 ^ ((num / den).log2 + 1) := Nat.lt_log2_self
  have hshift : (num / den).log2 + 1 ≤ 24 + excess num den := by
    unfold excess
    omega
  rw [← Nat.div_div_eq_div_mul]
  constructor
  · rw [Nat.div_lt_iff_lt_mul hpow, hbinade]
    calc num / den < 2 ^ ((num / den).log2 + 1) := hlt
      _ ≤ 2 ^ (24 + excess num den) := Nat.pow_le_pow_right (by decide) hshift
      _ = 2 * 2 ^ 23 * Nat.pow 2 (excess num den) := Nat.pow_add 2 24 _
  · by_cases hexcess : excess num den = 0
    · exact .inl hexcess
    · right
      have hlog : 23 + excess num den = (num / den).log2 := by
        unfold excess at hexcess ⊢
        omega
      have hne : num / den ≠ 0 := by
        intro hzero
        rw [hzero] at hlog
        exact absurd hlog (by simp [Nat.log2_zero])
      rw [Nat.le_div_iff_mul_le hpow, hbinade]
      calc 2 ^ 23 * Nat.pow 2 (excess num den) = 2 ^ (23 + excess num den) :=
            (Nat.pow_add 2 23 _).symm
        _ = 2 ^ (num / den).log2 := by rw [hlog]
        _ ≤ num / den := Nat.log2_self_le hne

/-- The magnitude that a number of least units is rounded to, infinite or not. -/
def rounded (num den : Nat) : Nat :=
  excess num den * binade + divNearest num (den * Nat.pow 2 (excess num den))

lemma rounded_cases (num : Nat) {den : Nat} (hden : 0 < den) :
    ∃ m, units m * den ≤ num ∧ num ≤ units (m + 1) * den ∧
      (rounded num den = m ∧ 2 * num ≤ (units m + units (m + 1)) * den ∧
          (2 * num = (units m + units (m + 1)) * den → m % 2 = 0) ∨
        rounded num den = m + 1 ∧ (units m + units (m + 1)) * den ≤ 2 * num ∧
          (2 * num = (units m + units (m + 1)) * den → (m + 1) % 2 = 0)) := by
  obtain ⟨hlt, hfull⟩ := coefficient_bounds num den
  unfold rounded
  generalize excess num den = shift at *
  have hstep : 0 < den * Nat.pow 2 shift := Nat.mul_pos hden (Nat.pow_pos (by decide))
  have hlo := Nat.div_mul_le_self num (den * Nat.pow 2 shift)
  have hhi := Nat.lt_mul_div_succ num hstep
  have hcases := divNearest_cases num (den * Nat.pow 2 shift)
  generalize num / (den * Nat.pow 2 shift) = k at *
  have hbelow : units (shift * binade + k) = k * Nat.pow 2 shift :=
    units_grid (Nat.le_of_lt hlt) hfull
  have habove : units (shift * binade + k + 1) = (k + 1) * Nat.pow 2 shift := by
    rw [Nat.add_assoc, units_grid hlt (by omega)]
  have hmiddle : (k * Nat.pow 2 shift + (k + 1) * Nat.pow 2 shift) * den =
      (2 * k + 1) * (den * Nat.pow 2 shift) := by ring
  have hparity (j : Nat) : (shift * binade + j) % 2 = j % 2 := by
    have hbinade : shift * binade = 2 * (shift * 0x400000) := by
      rw [Nat.mul_left_comm]
      rfl
    omega
  refine ⟨shift * binade + k, ?_, ?_, ?_⟩
  · rw [hbelow]
    linarith
  · rw [habove]
    linarith
  · rw [hbelow, habove, hmiddle, hparity, Nat.add_assoc, hparity]
    obtain ⟨hdiv, h⟩ | ⟨hdiv, h⟩ := hcases
    · exact .inl ⟨by rw [hdiv], h⟩
    · exact .inr ⟨by rw [hdiv], h⟩

section Fractions

variable {num den : Nat}

lemma add_place_le_iff (hden : 0 < den) (a b : Nat) :
    place a + place b ≤ 2 * (num / den) ↔
      (units a + units b) * den ≤ 2 * (num * Nat.pow 2 149) := by
  rw [place_natCast, place_natCast, ← add_div, ← mul_div_assoc,
    div_le_div_iff₀ (by positivity) (by positivity), mul_assoc 2 (num : ℚ)]
  exact_mod_cast Iff.rfl

lemma le_add_place_iff (hden : 0 < den) (a b : Nat) :
    2 * (num / den) ≤ place a + place b ↔
      2 * (num * Nat.pow 2 149) ≤ (units a + units b) * den := by
  rw [place_natCast, place_natCast, ← add_div, ← mul_div_assoc,
    div_le_div_iff₀ (by positivity) (by positivity), mul_assoc 2 (num : ℚ)]
  exact_mod_cast Iff.rfl

lemma two_mul_eq_iff (hden : 0 < den) (a b : Nat) :
    2 * (num / den) = place a + place b ↔
      2 * (num * Nat.pow 2 149) = (units a + units b) * den := by
  rw [le_antisymm_iff, le_antisymm_iff, le_add_place_iff hden, add_place_le_iff hden]

lemma nearestPlace_rounded (num : Nat) (hden : 0 < den) :
    NearestPlace (num / den) (rounded (num * Nat.pow 2 149) den) := by
  obtain ⟨m, hlo, hhi, ⟨hround, hhalf, heven⟩ | ⟨hround, hhalf, heven⟩⟩ :=
    rounded_cases (num * Nat.pow 2 149) hden
  · have hplace : place m + place m ≤ 2 * (num / den) := by
      rw [add_place_le_iff hden, Nat.add_mul]
      omega
    rw [hround]
    refine .of_below (by linarith) ((le_add_place_iff hden m (m + 1)).mpr hhalf) ?_
    intro heq
    exact_mod_cast heven ((two_mul_eq_iff hden m (m + 1)).mp heq)
  · have hplace : 2 * (num / den) ≤ place (m + 1 : Nat) + place (m + 1 : Nat) := by
      rw [le_add_place_iff hden, Nat.add_mul]
      omega
    rw [Nat.cast_succ] at hplace
    rw [hround, Nat.cast_succ]
    refine .of_above (by linarith) ((add_place_le_iff hden m (m + 1)).mpr hhalf) ?_
    intro heq
    exact_mod_cast heven ((two_mul_eq_iff hden m (m + 1)).mp heq)

end Fractions

/-! ## Floats -/

section Parts

variable (negative : Bool) {m : Nat}

lemma toNat_bits_ofParts (h : m < signBit) :
    (ofParts negative m).bits.toNat = if negative then signBit + m else m := by
  apply UInt32.toNat_ofNat_of_lt'
  change _ < 2 ^ 32
  unfold signBit at h ⊢
  split_ifs <;> omega

lemma magnitude_ofParts (h : m < signBit) : (ofParts negative m).magnitude = m := by
  rw [magnitude, toNat_bits_ofParts negative h]
  split_ifs
  · rw [Nat.add_mod_left, Nat.mod_eq_of_lt h]
  · exact Nat.mod_eq_of_lt h

lemma isNegative_ofParts (h : m < signBit) : (ofParts negative m).isNegative = negative := by
  rw [isNegative, toNat_bits_ofParts negative h]
  cases negative <;> simp [h]

lemma rank_ofParts (h : m < signBit) :
    (ofParts negative m).rank = if negative then -(m : ℤ) else m := by
  rw [rank, magnitude_ofParts negative h, isNegative_ofParts negative h]

end Parts

/-- A number is rounded to this float: the one at the nearest place, or an infinite one. -/
def Rounds (q : ℚ) (x : Binary32) : Prop :=
  ∃ z, NearestPlace q z ∧ x.isNaN = false ∧ x.rank = max (-infinite : ℤ) (min z infinite)

lemma rounds_ofRatio (negative : Bool) (num : Nat) {den : Nat} (hden : 0 < den) :
    Rounds (if negative then -(num / den) else num / den) (ofRatio negative num den) := by
  have hplace := nearestPlace_rounded num hden
  have hmin : nearest num den = min (rounded (num * Nat.pow 2 149) den) infinite := rfl
  have hlt : nearest num den < signBit := by
    have hinfinite : infinite < signBit := by decide
    omega
  have hnan : (ofRatio negative num den).isNaN = false := by
    rw [isNaN, ofRatio, magnitude_ofParts negative hlt, decide_eq_false_iff_not]
    omega
  have hrank : (ofRatio negative num den).rank = _ := rank_ofParts negative hlt
  cases negative with
  | false =>
    refine ⟨_, hplace, hnan, ?_⟩
    rw [hrank, if_neg (by simp)]
    omega
  | true =>
    refine ⟨_, hplace.neg, hnan, ?_⟩
    rw [hrank, if_pos rfl]
    omega

lemma rounds_ofInt (n : ℤ) : Rounds n (ofInt n) := by
  have hround := rounds_ofRatio (decide (n < 0)) n.natAbs Nat.one_pos
  have habs : (if decide (n < 0) = true then -((n.natAbs : ℚ) / (1 : Nat))
      else (n.natAbs : ℚ) / (1 : Nat)) = n := by
    rw [Nat.cast_natAbs, Nat.cast_one, div_one]
    by_cases hn : n < 0
    · simp [hn, abs_of_neg]
    · simp [hn, abs_of_nonneg (Int.not_lt.mp hn)]
  rwa [habs] at hround

/-- The float is finite and no finite float is nearer to the number; if one that stands for another
number is as near, the last bit of this one is zero. -/
structure IsNearest (q : ℚ) (x : Binary32) : Prop where
  finite : x.isFinite = true
  le : ∀ y : Binary32, y.isFinite = true → |x.toRat - q| ≤ |y.toRat - q|
  even : ∀ y : Binary32, y.isFinite = true → y.toRat ≠ x.toRat →
    |y.toRat - q| = |x.toRat - q| → x.magnitude % 2 = 0

section Nearest

variable {q : ℚ} {x y : Binary32}

lemma isFinite_iff : x.isFinite = true ↔ -(infinite : ℤ) < x.rank ∧ x.rank < infinite := by
  rw [isFinite, decide_eq_true_eq, rank]
  split_ifs <;> omega

lemma rank_emod_two : x.rank % 2 = 0 ↔ x.magnitude % 2 = 0 := by
  rw [rank]
  split_ifs <;> omega

lemma Rounds.rank_le (h : Rounds q x) (hy : y.isFinite = true) (hle : q ≤ y.toRat) :
    x.rank ≤ y.rank := by
  obtain ⟨z, hz, -, hrank⟩ := h
  have hzy := hz.le_of_le_place (hle.trans_eq y.toRat_eq_place)
  rw [isFinite_iff] at hy
  omega

lemma Rounds.le_rank (h : Rounds q x) (hy : y.isFinite = true) (hle : y.toRat ≤ q) :
    y.rank ≤ x.rank := by
  obtain ⟨z, hz, -, hrank⟩ := h
  have hyz := hz.le_of_place_le (y.toRat_eq_place.symm.trans_le hle)
  rw [isFinite_iff] at hy
  omega

lemma Rounds.isNearest (h : Rounds q x) (hx : x.isFinite = true) : IsNearest q x := by
  obtain ⟨z, hz, -, hrank⟩ := h
  obtain rfl : x.rank = z := by
    rw [isFinite_iff] at hx
    omega
  refine ⟨hx, ?_, ?_⟩
  · intro y _
    rw [toRat_eq_place, toRat_eq_place]
    exact hz.le y.rank
  · intro y _ hne heq
    rw [toRat_eq_place, toRat_eq_place] at hne heq
    rw [← rank_emod_two]
    exact hz.even y.rank (fun hsame => hne (hsame ▸ rfl)) heq

lemma isNearest_toRat (hx : x.isFinite = true) (hq : x.toRat = q) : IsNearest q x := by
  subst hq
  refine ⟨hx, ?_, ?_⟩
  · intro y _
    simp
  · intro y _ hne heq
    rw [sub_self, abs_zero, abs_eq_zero, sub_eq_zero] at heq
    exact absurd heq hne

lemma rank_apply {range : Bounds Binary32} (hle : range.min ≤ range.max) (hx : x.isNaN = false) :
    (range.apply x).rank = max range.min.rank (min x.rank range.max.rank) :=
  Ranked.rank_clamp hle hx

/-- Rounding a number and clamping it between two floats gives the float nearest to the clamped
number. -/
lemma Rounds.isNearest_apply {range : Bounds Binary32} (hmin : range.min.isFinite = true)
    (hmax : range.max.isFinite = true) (hle : range.min ≤ range.max) (h : Rounds q x) :
    IsNearest (max range.min.toRat (min q range.max.toRat)) (range.apply x) := by
  have hnan : x.isNaN = false := h.elim fun _ hz => hz.2.1
  have hrank := rank_apply hle hnan
  have hends := toRat_le_iff.mpr hle.2.2
  have hrange := Bounds.contains_apply hle x
  obtain ⟨hlo, hhi⟩ := Bounds.contains_iff.mp hrange
  have hfinite := isFinite_of_between hmin hmax hlo hhi
  by_cases hlow : q ≤ range.min.toRat
  · have hx := h.rank_le hmin hlow
    have hlowest : (range.apply x).rank = range.min.rank := by
      have := hle.2.2
      omega
    rw [min_eq_left (hlow.trans hends), max_eq_left hlow]
    exact isNearest_toRat hfinite (by rw [toRat_eq_place, hlowest, ← toRat_eq_place])
  by_cases hhigh : range.max.toRat ≤ q
  · have hx := h.le_rank hmax hhigh
    have hgreatest : (range.apply x).rank = range.max.rank := by
      have := hle.2.2
      omega
    rw [min_eq_right hhigh, max_eq_right hends]
    exact isNearest_toRat hfinite (by rw [toRat_eq_place, hgreatest, ← toRat_eq_place])
  · -- Between the ends nothing is clamped.
    rw [not_le] at hlow hhigh
    have hself : range.contains x = true := Bounds.contains_iff.mpr
      ⟨⟨hlo.1, hnan, h.le_rank hmin hlow.le⟩, hnan, hhi.2.1, h.rank_le hmax hhigh.le⟩
    rw [Bounds.apply_eq_self hself] at hfinite ⊢
    rw [min_eq_left hhigh.le, max_eq_right hlow.le]
    exact h.isNearest hfinite

end Nearest

/-! ## The laws of nearest floats -/

section Laws

variable {p q : ℚ} {x y : Binary32}

lemma exists_of_rank {z : ℤ} (h : -(infinite : ℤ) < z ∧ z < infinite) :
    ∃ x : Binary32, x.isFinite = true ∧ x.rank = z := by
  have hlt : z.natAbs < signBit := by
    have hinfinite : infinite < signBit := by decide
    omega
  have hrank : (ofParts (decide (z < 0)) z.natAbs).rank = z := by
    rw [rank_ofParts _ hlt]
    split_ifs with hz <;> simp at hz <;> omega
  refine ⟨_, ?_, hrank⟩
  rwa [isFinite_iff, hrank]

lemma add_le_two_mul {a b : ℚ} (hab : a < b) (h : |b - p| ≤ |a - p|) : a + b ≤ 2 * p := by
  have hp : a < p := by
    by_contra hle
    rw [not_lt] at hle
    rw [abs_of_nonneg (by linarith), abs_of_nonneg (by linarith)] at h
    linarith
  rw [abs_of_neg (show a - p < 0 by linarith)] at h
  linarith [le_abs_self (b - p)]

lemma IsNearest.toRat_le (hx : IsNearest p x) (hy : IsNearest q y) (hpq : p ≤ q) :
    x.toRat ≤ y.toRat := by
  by_contra hlt
  rw [not_le] at hlt
  -- Both numbers are the middle between the floats, so that both floats are even.
  have hlow := add_le_two_mul hlt (hx.le y hy.finite)
  have hhigh := add_le_two_mul (neg_lt_neg hlt) (p := -q) (by
    rw [← neg_sub', ← neg_sub', abs_neg, abs_neg]
    exact hy.le x hx.finite)
  obtain rfl : p = q := by linarith
  have hsame : |y.toRat - p| = |x.toRat - p| := by
    rw [abs_of_neg (by linarith), abs_of_pos (by linarith)]
    linarith
  have hxeven := rank_emod_two.mpr (hx.even y hy.finite hlt.ne hsame)
  have hyeven := rank_emod_two.mpr (hy.even x hx.finite hlt.ne' hsame.symm)
  have hrank := toRat_lt_iff.mp hlt
  -- The float after the lower one is odd, and nearer to the middle.
  have hyrank := isFinite_iff.mp hy.finite
  have hxrank := isFinite_iff.mp hx.finite
  obtain ⟨v, hv, hvrank⟩ := exists_of_rank (z := y.rank + 1) (by omega)
  have hyv : y.toRat < v.toRat := toRat_lt_iff.mpr (by omega)
  have hvx : v.toRat < x.toRat := toRat_lt_iff.mpr (by omega)
  have hle := hx.le v hv
  rw [abs_of_pos (show 0 < x.toRat - p by linarith)] at hle
  have hgt : |v.toRat - p| < x.toRat - p := abs_lt.mpr ⟨by linarith, by linarith⟩
  linarith

lemma IsNearest.toRat_eq (hx : IsNearest q x) (hy : y.isFinite = true) (hq : y.toRat = q) :
    x.toRat = q := by
  have hle := hx.le y hy
  rw [hq, sub_self, abs_zero] at hle
  exact sub_eq_zero.mp (abs_nonpos_iff.mp hle)

/-- An integer of 24 bits is a magnitude: its bits are shifted to the left as far as they can. -/
lemma exists_units_eq {n : Nat} (h : n < 2 * binade) :
    ∃ m, m < infinite ∧ units m = n * Nat.pow 2 149 := by
  by_cases hzero : n = 0
  · subst hzero
    exact ⟨0, by decide, by rw [Nat.zero_mul]; rfl⟩
  have hlog : n.log2 < 24 := (Nat.log2_lt hzero).mpr h
  have hsum : n.log2 + (23 - n.log2) = 23 := by omega
  have hlo : binade ≤ n * 2 ^ (23 - n.log2) :=
    calc binade = 2 ^ n.log2 * 2 ^ (23 - n.log2) := by rw [← Nat.pow_add, hsum]; rfl
      _ ≤ n * 2 ^ (23 - n.log2) := Nat.mul_le_mul_right _ (Nat.log2_self_le hzero)
  have hhi : n * 2 ^ (23 - n.log2) < 2 * binade :=
    calc n * 2 ^ (23 - n.log2) < 2 ^ (n.log2 + 1) * 2 ^ (23 - n.log2) :=
        Nat.mul_lt_mul_of_pos_right Nat.lt_log2_self (Nat.two_pow_pos _)
      _ = 2 * binade := by rw [Nat.pow_succ', Nat.mul_assoc, ← Nat.pow_add, hsum]; rfl
  refine ⟨(126 + n.log2) * binade + n * 2 ^ (23 - n.log2), ?_, ?_⟩
  · have hinfinite : infinite = 255 * binade := by decide
    have hexp : (126 + n.log2) * binade ≤ 149 * binade := Nat.mul_le_mul_right _ (by omega)
    omega
  · rw [units_grid hhi.le (.inr hlo), Nat.mul_assoc]
    congr 1
    change 2 ^ (23 - n.log2) * 2 ^ (126 + n.log2) = 2 ^ 149
    rw [← Nat.pow_add]
    congr 1
    omega

lemma exists_toRat_eq_int {n : ℤ} (h : n.natAbs < 2 * binade) :
    ∃ x : Binary32, x.isFinite = true ∧ x.toRat = n := by
  obtain ⟨m, hm, hunits⟩ := exists_units_eq h
  have hplace : place m = n.natAbs := by
    rw [place_natCast, hunits, Nat.cast_mul]
    change (n.natAbs : ℚ) * ((2 ^ 149 : Nat) : ℚ) / 2 ^ 149 = n.natAbs
    rw [Nat.cast_pow, Nat.cast_ofNat, mul_div_assoc, div_self (by positivity), mul_one]
  obtain hn | hn := Int.natAbs_eq n
  · obtain ⟨x, hx, hrank⟩ := exists_of_rank (z := m) (by omega)
    refine ⟨x, hx, ?_⟩
    rw [toRat_eq_place, hrank, hplace, hn]
    simp
  · obtain ⟨x, hx, hrank⟩ := exists_of_rank (z := -m) (by omega)
    refine ⟨x, hx, ?_⟩
    rw [toRat_eq_place, hrank, place_neg, hplace, hn]
    simp

end Laws

end Fieldbus.Binary32
