import Fieldbus.Binary32.Basic
import Fieldbus.Schema.Bounds
import Mathlib.Tactic.Lemma
import Mathlib.Tactic.SplitIfs

/-!
# The laws of clamping

Clamping returns one of three things: the lower end, the upper end, or the value itself. The laws of
every range follow from that, for integers and for floats alike, whose order leaves NaNs out: a
clamped value lies in the range, values of the range stay as they are, and the order is kept.
Integers that are clamped wide and then narrowed come out as if they had been clamped in their own
type, and the narrowing always succeeds, also where the lower end lies above the upper one.
-/

namespace Fieldbus

section Clamp

variable {α : Type} [LE α] [LT α] [DecidableLE α] [DecidableLT α]

/-- Everything that clamping can do. -/
lemma clamp_cases (lo v hi : α) :
    ¬lo ≤ v ∧ clamp lo v hi = lo ∨ lo ≤ v ∧ hi < v ∧ clamp lo v hi = hi ∨
      lo ≤ v ∧ ¬hi < v ∧ clamp lo v hi = v := by
  unfold clamp
  by_cases hlo : lo ≤ v
  · by_cases hhi : hi < v
    · exact .inr (.inl ⟨hlo, hhi, by rw [if_pos hlo, if_pos hhi]⟩)
    · exact .inr (.inr ⟨hlo, hhi, by rw [if_pos hlo, if_neg hhi]⟩)
  · exact .inl ⟨hlo, if_neg hlo⟩

lemma clamp_eq_self {lo v hi : α} (hlo : lo ≤ v) (hhi : ¬hi < v) : clamp lo v hi = v := by
  unfold clamp
  rw [if_pos hlo, if_neg hhi]

end Clamp

lemma Bounds.contains_iff {α : Type} [LE α] [DecidableLE α] {range : Bounds α} {v : α} :
    range.contains v = true ↔ range.min ≤ v ∧ v ≤ range.max := by
  simp [Bounds.contains]

/-! ## Orders by rank -/

/-- Values that compare at all compare as their ranks do. -/
class Ranked (α : Type) [LE α] [LT α] where
  Comparable : α → Prop
  rank : α → Int
  le_iff : ∀ v w : α, v ≤ w ↔ Comparable v ∧ Comparable w ∧ rank v ≤ rank w
  lt_iff : ∀ v w : α, v < w ↔ Comparable v ∧ Comparable w ∧ rank v < rank w

namespace Ranked

@[reducible] def total {α : Type} [LE α] [LT α] (value : α → Int)
    (hle : ∀ v w : α, v ≤ w ↔ value v ≤ value w) (hlt : ∀ v w : α, v < w ↔ value v < value w) :
    Ranked α where
  Comparable _ := True
  rank := value
  le_iff v w := by rw [true_and, true_and, hle]
  lt_iff v w := by rw [true_and, true_and, hlt]

instance : Ranked Int := total id (fun _ _ => Iff.rfl) fun _ _ => Iff.rfl

instance : Ranked Int64 :=
  total Int64.toInt (fun _ _ => Int64.le_iff_toInt_le) fun _ _ => Int64.lt_iff_toInt_lt

instance : Ranked Binary32 where
  Comparable x := x.isNaN = false
  rank := Binary32.rank
  le_iff _ _ := Iff.rfl
  lt_iff _ _ := Iff.rfl

variable {α : Type} [LE α] [LT α] [Ranked α] {lo v hi : α}

lemma le_trans (hlo : lo ≤ v) (hhi : v ≤ hi) : lo ≤ hi := by
  obtain ⟨hmin, _, hlow⟩ := (le_iff lo v).mp hlo
  obtain ⟨_, hmax, hhigh⟩ := (le_iff v hi).mp hhi
  exact (le_iff lo hi).mpr ⟨hmin, hmax, Int.le_trans hlow hhigh⟩

lemma not_lt_of_le (h : v ≤ hi) : ¬hi < v := by
  intro hlt
  have hle := ((le_iff v hi).mp h).2.2
  have hgt := ((lt_iff hi v).mp hlt).2.2
  omega

variable [DecidableLE α] [DecidableLT α]

/-- Between comparable ends nothing leaves the range, not even a value that does not compare. -/
lemma clamp_between (h : lo ≤ hi) : lo ≤ clamp lo v hi ∧ clamp lo v hi ≤ hi := by
  obtain ⟨hmin, hmax, _⟩ := (le_iff lo hi).mp h
  obtain ⟨_, hc⟩ | ⟨_, _, hc⟩ | ⟨hlo, hhi, hc⟩ := clamp_cases lo v hi
  · rw [hc]
    exact ⟨(le_iff lo lo).mpr ⟨hmin, hmin, Int.le_refl _⟩, h⟩
  · rw [hc]
    exact ⟨h, (le_iff hi hi).mpr ⟨hmax, hmax, Int.le_refl _⟩⟩
  · rw [hc]
    have hv := ((le_iff lo v).mp hlo).2.1
    have hle : rank v ≤ rank hi := Int.not_lt.mp fun hgt => hhi ((lt_iff hi v).mpr ⟨hmax, hv, hgt⟩)
    exact ⟨hlo, (le_iff v hi).mpr ⟨hv, hmax, hle⟩⟩

lemma rank_clamp (h : lo ≤ hi) (hv : Comparable v) :
    rank (clamp lo v hi) = max (rank lo) (min (rank v) (rank hi)) := by
  obtain ⟨hmin, hmax, hrank⟩ := (le_iff lo hi).mp h
  obtain ⟨hlo, hc⟩ | ⟨_, hhi, hc⟩ | ⟨hlo, hhi, hc⟩ := clamp_cases lo v hi
  · have hlt : rank v < rank lo := Int.not_le.mp fun hge => hlo ((le_iff lo v).mpr ⟨hmin, hv, hge⟩)
    rw [hc]
    omega
  · have hlt := ((lt_iff hi v).mp hhi).2.2
    rw [hc]
    omega
  · have hlow := ((le_iff lo v).mp hlo).2.2
    have hhigh : rank v ≤ rank hi :=
      Int.not_lt.mp fun hgt => hhi ((lt_iff hi v).mpr ⟨hmax, hv, hgt⟩)
    rw [hc]
    omega

end Ranked

namespace Bounds

variable {α : Type} [LE α] [LT α] [Ranked α] [DecidableLE α] {range : Bounds α} {v w : α}

lemma min_le_max_of_contains (h : range.contains v = true) : range.min ≤ range.max := by
  obtain ⟨hlo, hhi⟩ := contains_iff.mp h
  exact Ranked.le_trans hlo hhi

variable [DecidableLT α]

lemma contains_apply (h : range.min ≤ range.max) (v : α) :
    range.contains (range.apply v) = true :=
  contains_iff.mpr (Ranked.clamp_between h)

lemma apply_eq_self (h : range.contains v = true) : range.apply v = v := by
  obtain ⟨hlo, hhi⟩ := contains_iff.mp h
  exact clamp_eq_self hlo (Ranked.not_lt_of_le hhi)

lemma apply_le_apply (h : range.min ≤ range.max) (hvw : v ≤ w) : range.apply v ≤ range.apply w := by
  obtain ⟨hv, hw, hrank⟩ := (Ranked.le_iff v w).mp hvw
  have hleft := (Ranked.le_iff _ _).mp (contains_iff.mp (contains_apply h v)).2
  have hright := (Ranked.le_iff _ _).mp (contains_iff.mp (contains_apply h w)).1
  refine (Ranked.le_iff _ _).mpr ⟨hleft.1, hright.2.1, ?_⟩
  rw [apply, apply, Ranked.rank_clamp h hv, Ranked.rank_clamp h hw]
  omega

end Bounds

/-! ## Narrow integers -/

/-- Fixed-width integers are ordered as the integers they stand for, and every integer between two
of them is one of them. -/
class LawfulNarrow (α : Type) [LE α] [LT α] [Narrow α] : Prop where
  le_iff : ∀ v w : α, v ≤ w ↔ Narrow.toInt v ≤ Narrow.toInt w
  lt_iff : ∀ v w : α, v < w ↔ Narrow.toInt v < Narrow.toInt w
  ofInt?_toInt : ∀ v : α, Narrow.ofInt? (Narrow.toInt v) = some v
  ofInt?_between : ∀ (v w : α) (n : Int), Narrow.toInt v ≤ n → n ≤ Narrow.toInt w →
    ∃ u : α, Narrow.ofInt? n = some u ∧ Narrow.toInt u = n

instance {α : Type} [LE α] [LT α] [Narrow α] [LawfulNarrow α] : Ranked α :=
  .total Narrow.toInt LawfulNarrow.le_iff LawfulNarrow.lt_iff

namespace Narrow

lemma within_eq_some {α : Type} {lo hi n : Int} (f : Int → α) (hlo : lo ≤ n) (hhi : n ≤ hi) :
    within lo hi f n = some (f n) := if_pos ⟨hlo, hhi⟩

lemma lawful_of_within {α : Type} [LE α] [LT α] [Narrow α] {lo hi : Int} {f : Int → α}
    (hof : ∀ n, ofInt? n = within lo hi f n) (hle : ∀ v w : α, v ≤ w ↔ toInt v ≤ toInt w)
    (hlt : ∀ v w : α, v < w ↔ toInt v < toInt w) (hlo : ∀ v : α, lo ≤ toInt v)
    (hhi : ∀ v : α, toInt v ≤ hi) (hleft : ∀ v : α, f (toInt v) = v)
    (hright : ∀ n, lo ≤ n → n ≤ hi → toInt (f n) = n) : LawfulNarrow α where
  le_iff := hle
  lt_iff := hlt
  ofInt?_toInt v := by rw [hof, within_eq_some f (hlo v) (hhi v), hleft]
  ofInt?_between v w n hv hw := by
    have hn : lo ≤ n := Int.le_trans (hlo v) hv
    have hn' : n ≤ hi := Int.le_trans hw (hhi w)
    exact ⟨f n, by rw [hof, within_eq_some f hn hn'], hright n hn hn'⟩

instance : LawfulNarrow Int8 :=
  lawful_of_within (fun _ => rfl) (fun _ _ => Int8.le_iff_toInt_le)
    (fun _ _ => Int8.lt_iff_toInt_lt) Int8.le_toInt
    (fun v => Int.lt_add_one_iff.mp v.toInt_lt) (fun v => v.ofInt_toInt)
    fun _ hlo hhi => Int8.toInt_ofInt_of_le hlo (Int.lt_add_one_iff.mpr hhi)

instance : LawfulNarrow Int16 :=
  lawful_of_within (fun _ => rfl) (fun _ _ => Int16.le_iff_toInt_le)
    (fun _ _ => Int16.lt_iff_toInt_lt) Int16.le_toInt
    (fun v => Int.lt_add_one_iff.mp v.toInt_lt) (fun v => v.ofInt_toInt)
    fun _ hlo hhi => Int16.toInt_ofInt_of_le hlo (Int.lt_add_one_iff.mpr hhi)

instance : LawfulNarrow Int32 :=
  lawful_of_within (fun _ => rfl) (fun _ _ => Int32.le_iff_toInt_le)
    (fun _ _ => Int32.lt_iff_toInt_lt) Int32.le_toInt
    (fun v => Int.lt_add_one_iff.mp v.toInt_lt) (fun v => v.ofInt_toInt)
    fun _ hlo hhi => Int32.toInt_ofInt_of_le hlo (Int.lt_add_one_iff.mpr hhi)

lemma toNat_ofInt_uint8 {n : Int} (hlo : 0 ≤ n) (hhi : n ≤ 255) :
    ((UInt8.ofInt n).toNat : Int) = n := by
  simp only [UInt8.ofInt, UInt8.toNat_ofNat']
  omega

instance : LawfulNarrow UInt8 := by
  have hlt (v : UInt8) : (v.toNat : Int) ≤ 255 := by
    have h := v.toNat_lt
    omega
  have hleft (v : UInt8) : UInt8.ofInt v.toNat = v := by
    apply UInt8.toNat_inj.mp
    have h := toNat_ofInt_uint8 (Int.natCast_nonneg v.toNat) (hlt v)
    omega
  exact lawful_of_within (fun _ => rfl)
    (fun _ _ => UInt8.le_iff_toNat_le.trans Int.ofNat_le.symm)
    (fun _ _ => UInt8.lt_iff_toNat_lt.trans Int.ofNat_lt.symm)
    (fun v => Int.natCast_nonneg v.toNat) hlt hleft fun _ => toNat_ofInt_uint8

variable {α : Type} [LE α] [LT α] [Narrow α] [LawfulNarrow α]

lemma toInt_clamp [DecidableLE α] [DecidableLT α] (lo v hi : α) :
    toInt (clamp lo v hi) = clamp (toInt lo) (toInt v) (toInt hi) := by
  obtain ⟨hlo, hc⟩ | ⟨hlo, hhi, hc⟩ | ⟨hlo, hhi, hc⟩ := clamp_cases lo v hi
  · rw [hc, clamp, if_neg (mt (LawfulNarrow.le_iff lo v).mpr hlo)]
  · rw [hc, clamp, if_pos ((LawfulNarrow.le_iff lo v).mp hlo),
      if_pos ((LawfulNarrow.lt_iff hi v).mp hhi)]
  · rw [hc, clamp_eq_self ((LawfulNarrow.le_iff lo v).mp hlo)
      (mt (LawfulNarrow.lt_iff hi v).mpr hhi)]

end Narrow

namespace Bounds

section Wide

variable {α : Type} [LE α] [LT α] [Narrow α] [LawfulNarrow α]

lemma exists_ofInt?_clamp (range : Bounds α) (n : Int) :
    ∃ u : α, Narrow.ofInt? (clamp (Narrow.toInt range.min) n (Narrow.toInt range.max)) = some u ∧
      Narrow.toInt u = clamp (Narrow.toInt range.min) n (Narrow.toInt range.max) := by
  obtain ⟨_, h⟩ | ⟨_, _, h⟩ | ⟨hlo, hhi, h⟩ :=
    clamp_cases (Narrow.toInt range.min) n (Narrow.toInt range.max)
  · rw [h]
    exact ⟨range.min, LawfulNarrow.ofInt?_toInt _, rfl⟩
  · rw [h]
    exact ⟨range.max, LawfulNarrow.ofInt?_toInt _, rfl⟩
  · rw [h]
    exact LawfulNarrow.ofInt?_between range.min range.max n hlo (by omega)

lemma ofInt?_clamp (range : Bounds α) (n : Int) :
    Narrow.ofInt? (clamp (Narrow.toInt range.min) n (Narrow.toInt range.max)) =
      some (range.applyWide n) := by
  obtain ⟨u, hu, _⟩ := range.exists_ofInt?_clamp n
  rw [applyWide, hu, Option.getD_some]

lemma toInt_applyWide (range : Bounds α) (n : Int) :
    Narrow.toInt (range.applyWide n) =
      clamp (Narrow.toInt range.min) n (Narrow.toInt range.max) := by
  obtain ⟨u, hu, hval⟩ := range.exists_ofInt?_clamp n
  rw [applyWide, hu, Option.getD_some, hval]

variable [DecidableLE α] {range : Bounds α}

lemma contains_iff_toInt {v : α} :
    range.contains v = true ↔
      Narrow.toInt range.min ≤ Narrow.toInt v ∧ Narrow.toInt v ≤ Narrow.toInt range.max := by
  rw [contains_iff, LawfulNarrow.le_iff range.min v, LawfulNarrow.le_iff v range.max]

lemma contains_applyWide (h : range.min ≤ range.max) (n : Int) :
    range.contains (range.applyWide n) = true := by
  rw [contains_iff_toInt, toInt_applyWide]
  exact Ranked.clamp_between ((LawfulNarrow.le_iff range.min range.max).mp h)

variable [DecidableLT α]

lemma applyWide_toInt_eq_apply (range : Bounds α) (v : α) :
    range.applyWide (Narrow.toInt v) = range.apply v := by
  rw [applyWide, ← Narrow.toInt_clamp, LawfulNarrow.ofInt?_toInt, Option.getD_some, apply]

lemma applyWide_toInt {v : α} (h : range.contains v = true) :
    range.applyWide (Narrow.toInt v) = v := by
  rw [applyWide_toInt_eq_apply, apply_eq_self h]

end Wide

/-! ## All laws together -/

section Laws

variable {α : Type} [LE α] [LT α] [DecidableLE α] [DecidableLT α]

/-- What clamping into a range has to do. -/
structure Clamps (range : Bounds α) : Prop where
  contains_apply : ∀ v, range.contains (range.apply v) = true
  apply_eq_iff : ∀ v, range.apply v = v ↔ range.contains v = true
  apply_apply : ∀ v, range.apply (range.apply v) = range.apply v
  apply_mono : ∀ v w, v ≤ w → range.apply v ≤ range.apply w

/-- What clamping an integer of any size has to do: narrowing never fails, and values of the own
type are clamped as such. -/
structure ClampsWide [Narrow α] (range : Bounds α) : Prop where
  ofInt?_clamp : ∀ n : Int,
    Narrow.ofInt? (clamp (Narrow.toInt range.min) n (Narrow.toInt range.max)) =
      some (range.applyWide n)
  applyWide_toInt_eq_apply : ∀ v, range.applyWide (Narrow.toInt v) = range.apply v

lemma clamps [Ranked α] {range : Bounds α} (h : range.min ≤ range.max) : range.Clamps where
  contains_apply := contains_apply h
  apply_eq_iff v := ⟨fun hself => hself ▸ contains_apply h v, apply_eq_self⟩
  apply_apply v := apply_eq_self (contains_apply h v)
  apply_mono _ _ := apply_le_apply h

lemma clampsWide [Narrow α] [LawfulNarrow α] (range : Bounds α) : range.ClampsWide where
  ofInt?_clamp := range.ofInt?_clamp
  applyWide_toInt_eq_apply := range.applyWide_toInt_eq_apply

end Laws

/-- Signed integers of one, two, four and eight bytes, single bytes, integers of any size, and
floats with all their bit patterns are clamped by the same laws into every range whose ends are in
order. The narrow widths of fields clamp integers of any size as well, also into ranges whose ends
are not in order. -/
theorem clamping_laws :
    ((∀ range : Bounds Int8, range.min ≤ range.max → range.Clamps) ∧
      (∀ range : Bounds Int16, range.min ≤ range.max → range.Clamps) ∧
      (∀ range : Bounds Int32, range.min ≤ range.max → range.Clamps) ∧
      (∀ range : Bounds Int64, range.min ≤ range.max → range.Clamps) ∧
      (∀ range : Bounds UInt8, range.min ≤ range.max → range.Clamps) ∧
      (∀ range : Bounds Int, range.min ≤ range.max → range.Clamps) ∧
      ∀ range : Bounds Binary32, range.min ≤ range.max → range.Clamps) ∧
    (∀ range : Bounds Int8, range.ClampsWide) ∧ (∀ range : Bounds Int16, range.ClampsWide) ∧
      ∀ range : Bounds UInt8, range.ClampsWide :=
  ⟨⟨fun _ => clamps, fun _ => clamps, fun _ => clamps, fun _ => clamps, fun _ => clamps,
    fun _ => clamps, fun _ => clamps⟩, clampsWide, clampsWide, clampsWide⟩

/-- A NaN is brought into a range that starts at zero, while a negative zero stays as it is; and a
range whose ends are not in order takes everything to one of them. -/
theorem clamping_laws_negative_zero :
    let unit : Bounds Binary32 := ⟨⟨0⟩, ⟨0x3F800000⟩⟩
    let inverted : Bounds Int8 := ⟨100, -100⟩
    unit.min ≤ unit.max ∧ unit.contains (unit.apply ⟨0x7FC00000⟩) = true ∧
      unit.apply ⟨0x80000000⟩ = ⟨0x80000000⟩ ∧
      inverted.applyWide (Narrow.toInt (5 : Int8)) = inverted.apply 5 ∧ inverted.apply 5 = 100 := by
  intro unit inverted
  have hle : unit.min ≤ unit.max := by decide
  have hunit : unit.Clamps := clamping_laws.1.2.2.2.2.2.2 unit hle
  exact ⟨hle, hunit.contains_apply _, (hunit.apply_eq_iff _).mpr (by decide),
    (clamping_laws.2.1 inverted).applyWide_toInt_eq_apply 5, by decide⟩

end Bounds

lemma Binary32.isFinite_of_between {lo x hi : Binary32} (hlo : lo.isFinite = true)
    (hhi : hi.isFinite = true) (h₁ : lo ≤ x) (h₂ : x ≤ hi) : x.isFinite = true := by
  obtain ⟨_, _, hlow⟩ := h₁
  obtain ⟨_, _, hhigh⟩ := h₂
  simp only [isFinite, decide_eq_true_eq] at hlo hhi ⊢
  simp only [rank] at hlow hhigh
  split_ifs at hlow hhigh <;> omega

end Fieldbus
