import Fieldbus.Binary32.Shortest
import Mathlib.Tactic.Ring

/-!
# The shortest decimal of a float reads back

Rounding leaves a number alone that is a float already. Every finite float lies on the finest of the
grids that the search goes through, so that the search ends with a decimal, and whatever decimal it
ends with rounds to the float.
-/

namespace Fieldbus.Binary32

/-! ## Rounding -/

lemma divNearest_mul_self (n : Nat) {den : Nat} (hden : 0 < den) :
    divNearest (n * den) den = n := by
  simp only [divNearest, Nat.mul_mod_left, Nat.mul_div_cancel n hden]
  exact if_pos (.inl hden)

lemma log2_shifted {fraction : Nat} (h : fraction < binade) (k : Nat) :
    ((binade + fraction) * Nat.pow 2 k).log2 = 23 + k := by
  have hpow : 0 < Nat.pow 2 k := Nat.pow_pos (by decide)
  have hbinade : binade = Nat.pow 2 23 := rfl
  rw [Nat.log2_eq_iff (Nat.mul_ne_zero (by omega) (Nat.ne_of_gt hpow))]
  constructor
  · calc 2 ^ (23 + k) = binade * Nat.pow 2 k := Nat.pow_add 2 23 k
      _ ≤ (binade + fraction) * Nat.pow 2 k := Nat.mul_le_mul_right _ (Nat.le_add_right _ _)
  · calc (binade + fraction) * Nat.pow 2 k < (binade + binade) * Nat.pow 2 k :=
        Nat.mul_lt_mul_of_pos_right (by omega) hpow
      _ = 2 ^ (23 + k + 1) := by
        rw [hbinade]
        change (2 ^ 23 + 2 ^ 23) * 2 ^ k = _
        ring

/-- A magnitude is an exponent and a coefficient of up to 24 bits, all of them used unless the
exponent is the least. -/
lemma exists_grid (m : Nat) :
    ∃ e k, m = e * binade + k ∧ k < 2 * binade ∧ (e = 0 ∨ binade ≤ k) := by
  have hsplit := Nat.div_add_mod' m binade
  have hlt := Nat.mod_lt m (show 0 < binade by decide)
  cases hexp : m / binade with
  | zero =>
    rw [hexp] at hsplit
    exact ⟨0, m % binade, by omega, by omega, .inl rfl⟩
  | succ e =>
    rw [hexp, Nat.add_mul] at hsplit
    exact ⟨e, binade + m % binade, by omega, by omega, .inr (by omega)⟩

lemma units_succ_exponent (e : Nat) {f : Nat} (h : f < binade) :
    units ((e + 1) * binade + f) = (binade + f) * Nat.pow 2 e := by
  have hbinade : 0 < binade := by decide
  have hdiv : ((e + 1) * binade + f) / binade = e + 1 := by
    rw [Nat.add_comm, Nat.add_mul_div_right _ _ hbinade, Nat.div_eq_of_lt h, Nat.zero_add]
  have hmod : ((e + 1) * binade + f) % binade = f := by
    rw [Nat.add_comm, Nat.add_mul_mod_self_right, Nat.mod_eq_of_lt h]
  simp only [units, hdiv, hmod]
  rfl

lemma units_grid {e k : Nat} (hk : k ≤ 2 * binade) (h : e = 0 ∨ binade ≤ k) :
    units (e * binade + k) = k * Nat.pow 2 e := by
  by_cases hlow : k < binade
  · obtain rfl : e = 0 := by omega
    simp only [units, Nat.zero_mul, Nat.zero_add, Nat.div_eq_of_lt hlow, Nat.mod_eq_of_lt hlow]
    exact (Nat.mul_one k).symm
  obtain ⟨f, rfl⟩ := Nat.exists_eq_add_of_le (Nat.not_lt.mp hlow)
  by_cases htop : f < binade
  · rw [← units_succ_exponent e htop, Nat.add_mul, Nat.one_mul, Nat.add_assoc]
  · -- The coefficient has become a power of two, which belongs to the next exponent.
    obtain rfl : f = binade := by omega
    have hnext := units_succ_exponent (e + 1) (show 0 < binade by decide)
    rw [show (e + 1 + 1) * binade + 0 = e * binade + (binade + binade) by ring] at hnext
    rw [hnext]
    change (binade + 0) * 2 ^ (e + 1) = (binade + binade) * 2 ^ e
    ring

lemma units_cases (magnitude : Nat) :
    (units magnitude = magnitude ∧ (units magnitude).log2 - 23 = 0) ∨
      ∃ fraction k, magnitude = k * binade + (binade + fraction) ∧
        units magnitude = (binade + fraction) * Nat.pow 2 k ∧ (units magnitude).log2 - 23 = k := by
  obtain ⟨e, k, rfl, hk, h⟩ := exists_grid magnitude
  rw [units_grid (Nat.le_of_lt hk) h]
  by_cases hlow : k < binade
  · obtain rfl : e = 0 := by omega
    have hself : k * Nat.pow 2 0 = k := Nat.mul_one k
    have hlog : k.log2 - 23 = 0 := by
      by_cases hzero : k = 0
      · rw [hzero]
        rfl
      · have hlt := (Nat.log2_lt hzero).mpr (show k < 2 ^ 23 from hlow)
        omega
    rw [hself, Nat.zero_mul, Nat.zero_add]
    exact .inl ⟨rfl, hlog⟩
  · obtain ⟨fraction, rfl⟩ := Nat.exists_eq_add_of_le (Nat.not_lt.mp hlow)
    refine .inr ⟨fraction, e, rfl, rfl, ?_⟩
    rw [log2_shifted (by omega)]
    exact Nat.add_sub_cancel_left _ _

lemma nearest_of_units {num den magnitude : Nat} (hden : 0 < den) (hfinite : magnitude < infinite)
    (h : num * Nat.pow 2 149 = units magnitude * den) : nearest num den = magnitude := by
  have hexact : excess (units magnitude * den) den * binade +
      divNearest (units magnitude * den) (den * Nat.pow 2 (excess (units magnitude * den) den)) =
      magnitude := by
    rw [excess, Nat.mul_div_cancel _ hden]
    obtain ⟨hunits, hlog⟩ | ⟨fraction, k, hmagnitude, hunits, hlog⟩ := units_cases magnitude
    · rw [hlog, hunits, Nat.zero_mul, Nat.zero_add]
      change divNearest (magnitude * den) (den * 1) = magnitude
      rw [Nat.mul_one, divNearest_mul_self _ hden]
    · have hpos : 0 < den * Nat.pow 2 k := Nat.mul_pos hden (Nat.pow_pos (by decide))
      rw [hlog, hunits, Nat.mul_assoc, Nat.mul_comm (Nat.pow 2 k) den, divNearest_mul_self _ hpos,
        hmagnitude]
  simp only [nearest, h, hexact]
  exact Nat.min_eq_left (Nat.le_of_lt hfinite)

/-! ## The search -/

lemma nearer_cases (tie : Tie) (num den : Nat) :
    nearer tie num den = num / den ∨ nearer tie num den = num / den + 1 := by
  unfold nearer
  cases tie <;> dsimp only <;> split_ifs <;> simp

section Passing

variable {test : Nat → Bool} {below above preferred n : Nat}

lemma test_of_passing? (hpreferred : preferred = below ∨ preferred = above)
    (h : passing? test below above preferred = some n) : test n = true := by
  unfold passing? at h
  cases hbelow : test below <;> cases habove : test above <;> rw [hbelow, habove] at h
  · nomatch h
  · rwa [← Option.some.inj h]
  · rwa [← Option.some.inj h]
  · rw [← Option.some.inj h]
    obtain rfl | rfl := hpreferred <;> assumption

lemma isSome_passing? (h : test below = true) :
    (passing? test below above preferred).isSome = true := by
  unfold passing?
  rw [h]
  cases test above <;> rfl

end Passing

section Search

variable {tie : Tie} {magnitude : Nat} {exponent : Int} {d : Decimal}

lemma readsBack_of_onGrid? (h : onGrid? tie magnitude exponent = some d) :
    readsBack magnitude d = true := by
  unfold onGrid? at h
  obtain ⟨n, hn, rfl⟩ := Option.map_eq_some_iff.mp h
  have htest := test_of_passing? (nearer_cases _ _ _) hn
  exact htest

lemma isSome_onGrid? {n : Nat}
    (hexact : units magnitude * Nat.pow 10 (-exponent).toNat =
      n * (Nat.pow 2 149 * Nat.pow 10 exponent.toNat))
    (hread : readsBack magnitude ⟨n, exponent⟩ = true) :
    (onGrid? tie magnitude exponent).isSome = true := by
  have hpos : 0 < Nat.pow 2 149 * Nat.pow 10 exponent.toNat :=
    Nat.mul_pos (Nat.pow_pos (by decide)) (Nat.pow_pos (by decide))
  unfold onGrid?
  rw [Option.isSome_map, hexact, Nat.mul_div_cancel _ hpos]
  exact isSome_passing? hread

lemma ten_pow (k : Nat) : Nat.pow 10 k = Nat.pow 5 k * Nat.pow 2 k := Nat.mul_pow 5 2 k

/-- The finest grid holds every float itself. -/
lemma isSome_onGrid?_finest (h : magnitude < infinite) :
    (onGrid? tie magnitude (-(149 : Nat))).isSome = true := by
  -- The exponent stays a variable, so that its powers are never computed.
  obtain ⟨k, hk⟩ : ∃ k, k = 149 := ⟨_, rfl⟩
  have hread : readsBack magnitude ⟨units magnitude * Nat.pow 5 k, -(k : Int)⟩ = true := by
    have hnum : Decimal.num ⟨units magnitude * Nat.pow 5 k, -(k : Int)⟩ =
        units magnitude * Nat.pow 5 k := by
      rw [Decimal.num, Int.toNat_neg_natCast]
      exact Nat.mul_one _
    have hden : Decimal.den ⟨units magnitude * Nat.pow 5 k, -(k : Int)⟩ = Nat.pow 10 k := by
      rw [Decimal.den, Int.neg_neg, Int.toNat_natCast]
    have hpos : 0 < Nat.pow 10 k := Nat.pow_pos (by decide)
    rw [readsBack, decide_eq_true_eq, hnum, hden]
    apply nearest_of_units hpos h
    rw [← hk, ten_pow, Nat.mul_assoc]
  rw [← hk]
  refine isSome_onGrid? ?_ hread
  rw [← hk, Int.neg_neg, Int.toNat_natCast, Int.toNat_neg_natCast, ten_pow, Nat.mul_assoc]
  exact congrArg _ (congrArg _ (Nat.mul_one _).symm)

lemma readsBack_shortest (h : magnitude < infinite) :
    readsBack magnitude (shortest tie magnitude) = true := by
  have hfound : ((List.range 189).findSome? fun (i : Nat) =>
      onGrid? tie magnitude (39 - (i : Int))).isSome = true := by
    rw [List.findSome?_isSome_iff]
    exact ⟨188, List.mem_range.mpr (by decide), isSome_onGrid?_finest h⟩
  obtain ⟨d, hd⟩ := Option.isSome_iff_exists.mp hfound
  obtain ⟨i, _, hi⟩ := List.exists_of_findSome?_eq_some hd
  rw [shortest, hd, Option.getD_some]
  exact readsBack_of_onGrid? hi

end Search

end Fieldbus.Binary32
