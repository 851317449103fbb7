import Fieldbus.Proofs.Assignments
import Fieldbus.Proofs.DecimalTexts
import Fieldbus.Proofs.NamedAccess
import Fieldbus.Proofs.ReachableMessages
import Mathlib.Tactic.Convert

/-!
# What a float field makes of a number

A float field takes integers, and texts of numbers of any length. Either is rounded to a float first
and clamped into the range of the field afterwards, and so the field holds the float nearest to the
clamped number, in the order of the numbers that were asked for. What is no finite number goes to an
end of the range.
-/

namespace Fieldbus

namespace Binary32

section Ends

variable {range : Bounds Binary32} {x : Binary32}

lemma apply_of_isNaN (h : x.isNaN = true) : range.apply x = range.min := by
  apply if_neg
  rintro ⟨-, hnan, -⟩
  exact absurd (hnan.symm.trans h) (by simp)

lemma apply_infinite (hmin : range.min.isFinite = true) (hmax : range.max.isFinite = true)
    (hle : range.min ≤ range.max) (negative : Bool) :
    range.apply (ofParts negative infinite) = if negative then range.min else range.max := by
  have hlt : infinite < signBit := by decide
  have hnan : (ofParts negative infinite).isNaN = false := by
    rw [isNaN, magnitude_ofParts negative hlt]
    exact decide_eq_false (lt_irrefl _)
  have hrank := rank_ofParts negative hlt
  rw [isFinite_iff] at hmin hmax
  cases negative with
  | true =>
    apply if_neg
    rintro ⟨-, -, hbelow⟩
    rw [hrank] at hbelow
    simp only [if_true] at hbelow
    omega
  | false =>
    simp only [Bool.false_eq_true, if_false] at hrank ⊢
    have hlow : range.min ≤ ofParts false infinite := ⟨hle.1, hnan, by omega⟩
    have hhigh : range.max < ofParts false infinite := ⟨hle.2.1, hnan, by omega⟩
    rw [Bounds.apply, clamp, if_pos hlow, if_pos hhigh]

end Ends

lemma toRat_of_units {x : Binary32} {n : Nat} (h : units x.magnitude = n * Nat.pow 2 149) :
    x.toRat = (if x.isNegative then -1 else 1) * n := by
  have hpow : ((Nat.pow 2 149 : Nat) : ℚ) = 2 ^ 149 := Nat.cast_pow 2 149
  rw [toRat, h, Nat.cast_mul, hpow, ← mul_assoc, mul_div_cancel_right₀ _ (by positivity)]

end Binary32

def FieldValue.float? : FieldValue → Option Binary32
  | .int n => some (Binary32.ofInt n)
  | .float x => some x
  | .chars _ => none

namespace FieldType

variable {type : FieldType} {range : Bounds Binary32}

lemma exists_accept_float (h : type = .float32 range) {value : FieldValue} {x : Binary32}
    (hx : value.float? = some x) :
    ∃ input, (∀ name, type.accept name value = .ok input) ∧
      type.value (type.store input) = .float (range.apply x) := by
  subst h
  cases value with
  | chars text => nomatch hx
  | _ =>
    obtain rfl := Option.some.inj hx
    exact ⟨_, fun _ => rfl, rfl⟩

lemma parse_float (h : type = .float32 range) {raw : String} {x : Binary32}
    (hread : Binary32.read (Text.trim raw.toList) = .ok x) : type.parse raw = .ok (.float x) := by
  subst h
  simp only [parse, hread]

lemma read_of_parse (h : type = .float32 range) {raw : String} {value : FieldValue}
    (hparse : type.parse raw = .ok value) :
    ∃ x, Binary32.read (Text.trim raw.toList) = .ok x := by
  subst h
  cases hread : Binary32.read (Text.trim raw.toList) with
  | ok x => exact ⟨x, rfl⟩
  | error fault => simp [parse, hread] at hparse

end FieldType

lemma Kind.float_ends_upPlop (slot : Slot (Kind.fields .upPlop)) {range : Bounds Binary32}
    (h : slot.field.type = .float32 range) :
    range.min.toRat = (-30 : ℤ) ∧ range.max.toRat = (1000 : ℤ) := by
  revert slot
  apply Slot.forall_cons
  · intro h
    obtain rfl := FieldType.float32.inj h
    have hmin := Binary32.toRat_of_units (x := ⟨0xC1F00000⟩) (n := 30) (by decide)
    have hmax := Binary32.toRat_of_units (x := ⟨0x447A0000⟩) (n := 1000) (by decide)
    rw [if_pos (by decide)] at hmin
    rw [if_neg (by decide)] at hmax
    exact ⟨hmin.trans (by norm_num), hmax.trans (by norm_num)⟩
  · exact Slot.forall_cons (fun h => nomatch h)
      (Slot.forall_cons (fun h => nomatch h) Slot.forall_nil)

namespace Message

/-- A value that is written to a field leaves this float there. -/
def Stores (message : Message) (slot : Slot message.kind.fields) (value : FieldValue)
    (x : Binary32) : Prop :=
  ∃ next, message.setField slot.field.name value = .ok next ∧
    next.field? slot.field.name = some (.float x)

/-- A field is asked to take a number, by an integer or by a text, and holds this float then. -/
inductive Takes (message : Message) (slot : Slot message.kind.fields) : ℚ → Binary32 → Prop where
  | integer {n : Int} {x : Binary32} (h : message.Stores slot (.int n) x) : message.Takes slot n x
  | text {raw : String} {q : ℚ} {value : FieldValue} {x : Binary32}
      (htext : Binary32.Literal (Text.trim raw.toList) q)
      (hparse : slot.field.type.parse raw = .ok value) (h : message.Stores slot value x) :
      message.Takes slot q x

section Floats

variable {message : Message} {slot : Slot message.kind.fields} {range : Bounds Binary32}

lemma stores_iff (h : slot.field.type = .float32 range) {value : FieldValue} {x y : Binary32}
    (hx : value.float? = some x) : message.Stores slot value y ↔ y = range.apply x := by
  obtain ⟨input, haccept, hvalue⟩ := FieldType.exists_accept_float h hx
  have hset : message.setField slot.field.name value =
      .ok ⟨message.kind, message.record.put slot input⟩ := by
    rw [setField_name, haccept]
    rfl
  have hread := field?_put message slot input
  rw [hvalue] at hread
  unfold Stores
  rw [hset]
  constructor
  · rintro ⟨next, hnext, hfield⟩
    obtain rfl := Except.ok.inj hnext
    exact FieldValue.float.inj (Option.some.inj (hfield.symm.trans hread))
  · rintro rfl
    exact ⟨_, rfl, hread⟩

/-- What a field takes is rounded before it is clamped. -/
lemma Takes.exists_rounds (h : slot.field.type = .float32 range) {q : ℚ} {x : Binary32}
    (hx : message.Takes slot q x) : ∃ y, Binary32.Rounds q y ∧ x = range.apply y := by
  cases hx with
  | @integer n _ hstores =>
    exact ⟨_, Binary32.rounds_ofInt n, (stores_iff h rfl).mp hstores⟩
  | text htext hparse hstores =>
    obtain ⟨y, hread, hround⟩ := htext.read
    obtain rfl := Except.ok.inj ((FieldType.parse_float h hread).symm.trans hparse)
    exact ⟨y, hround, (stores_iff h rfl).mp hstores⟩

lemma ordered_ends (h : slot.field.type = .float32 range) :
    range.min.isFinite = true ∧ range.max.isFinite = true ∧ range.min ≤ range.max := by
  have hwf := message.kind.wellFormed_fields _ slot.field_mem
  rw [h] at hwf
  obtain ⟨hzero, hmin, hmax⟩ := hwf
  exact ⟨hmin, hmax, Bounds.min_le_max_of_contains hzero⟩

lemma Takes.isNearest (h : slot.field.type = .float32 range) {q : ℚ} {x : Binary32}
    (hx : message.Takes slot q x) :
    Binary32.IsNearest (max range.min.toRat (min q range.max.toRat)) x := by
  obtain ⟨y, hround, rfl⟩ := hx.exists_rounds h
  obtain ⟨hmin, hmax, hle⟩ := ordered_ends h
  exact hround.isNearest_apply hmin hmax hle

lemma Takes.toRat_int (h : slot.field.type = .float32 range) {lo hi n : ℤ}
    (hlo : range.min.toRat = lo) (hhi : range.max.toRat = hi)
    (hbits : (max lo (min n hi)).natAbs < 2 * Binary32.binade) {x : Binary32}
    (hx : message.Takes slot n x) : x.toRat = (max lo (min n hi) : ℤ) := by
  have hnearest := hx.isNearest h
  have hclamp : max (lo : ℚ) (min n hi) = (max lo (min n hi) : ℤ) := by
    rw [Int.cast_max, Int.cast_min]
  rw [hlo, hhi, hclamp] at hnearest
  obtain ⟨y, hy, hvalue⟩ := Binary32.exists_toRat_eq_int hbits
  exact hnearest.toRat_eq hy hvalue

end Floats

/-- A float field takes every integer and every text of a number, and then holds the float nearest
to that number clamped into its range, an even one if two are. So greater numbers are not stored as
less, and the small range of one kind stores integers as they are. Infinities become the ends of the
range, no number becomes the lower end, and no other text is taken. -/
theorem float_field_takes_nearest (message : Message) (slot : Slot message.kind.fields)
    {range : Bounds Binary32} (h : slot.field.type = .float32 range) :
    (∀ n : Int, ∃ x, message.Stores slot (.int n) x) ∧
    (∀ raw q, Binary32.Literal (Text.trim raw.toList) q →
      ∃ value x, slot.field.type.parse raw = .ok value ∧ message.Stores slot value x) ∧
    (∀ q x, message.Takes slot q x →
      Binary32.IsNearest (max range.min.toRat (min q range.max.toRat)) x) ∧
    (∀ p q x y, message.Takes slot p x → message.Takes slot q y → p ≤ q → x.toRat ≤ y.toRat) ∧
    (message.kind = .upPlop → ∀ (n : Int) x, message.Stores slot (.int n) x →
      x.toRat = (max (-30) (min n 1000) : Int)) ∧
    (∀ negative, message.Stores slot (.float (.ofParts negative Binary32.infinite))
      (if negative then range.min else range.max)) ∧
    (∀ raw negative, Binary32.Infinity (Text.trim raw.toList) negative →
      slot.field.type.parse raw = .ok (.float (.ofParts negative Binary32.infinite))) ∧
    (∀ x : Binary32, x.isNaN = true → message.Stores slot (.float x) range.min) ∧
    (∀ raw, Binary32.NoNumber (Text.trim raw.toList) →
      ∃ x : Binary32, slot.field.type.parse raw = .ok (.float x) ∧ x.isNaN = true) ∧
    (∀ raw value, slot.field.type.parse raw = .ok value →
      (∃ q, Binary32.Literal (Text.trim raw.toList) q) ∨
        (∃ negative, Binary32.Infinity (Text.trim raw.toList) negative) ∨
        Binary32.NoNumber (Text.trim raw.toList)) := by
  obtain ⟨hmin, hmax, hle⟩ := ordered_ends h
  refine ⟨?_, ?_, ?_, ?_, ?_, ?_, ?_, ?_, ?_, ?_⟩
  · intro n
    exact ⟨_, (stores_iff h rfl).mpr rfl⟩
  · intro raw q htext
    obtain ⟨y, hread, -⟩ := htext.read
    exact ⟨_, _, FieldType.parse_float h hread, (stores_iff h rfl).mpr rfl⟩
  · intro q x hx
    exact hx.isNearest h
  · intro p q x y hx hy hpq
    apply (hx.isNearest h).toRat_le (hy.isNearest h)
    gcongr
  · intro hkind n x hx
    obtain ⟨kind, record⟩ := message
    obtain rfl : kind = .upPlop := hkind
    obtain ⟨hlo, hhi⟩ := Kind.float_ends_upPlop slot h
    have hbinade : Binary32.binade = 8388608 := rfl
    exact (Takes.integer hx).toRat_int h hlo hhi (by omega)
  · intro negative
    rw [stores_iff h rfl, Binary32.apply_infinite hmin hmax hle]
  · intro raw negative hword
    exact FieldType.parse_float h hword.read
  · intro x hx
    rw [stores_iff h rfl, Binary32.apply_of_isNaN hx]
  · intro raw hword
    obtain ⟨x, hread, hnan⟩ := hword.read
    exact ⟨x, FieldType.parse_float h hread, hnan⟩
  · intro raw value hparse
    obtain ⟨x, hread⟩ := FieldType.read_of_parse h hparse
    exact Binary32.read_cases hread

/-- Two numbers halfway between floats. The first goes down to the even float; the second, beyond
all floats, goes up to infinity and is clamped to the greatest. -/
theorem float_field_takes_nearest_halfway :
    let message := (fresh .downToto).run [.put "name" (.bytes [0xFF])]
    let slot : Slot message.kind.fields := .there (.there (.there .here))
    let lo := Kind.anyFloat.min.toRat
    let hi := Kind.anyFloat.max.toRat
    slot.field.type = .float32 Kind.anyFloat ∧
      message.Stores slot (.int 16777217) ⟨0x4B800000⟩ ∧
      Binary32.IsNearest (max lo (min 16777217 hi)) ⟨0x4B800000⟩ ∧
      message.Takes slot (2 ^ 128 - 2 ^ 103) .greatest ∧
      Binary32.IsNearest (max lo (min (2 ^ 128 - 2 ^ 103) hi)) .greatest := by
  intro message slot lo hi
  have htype : slot.field.type = .float32 Kind.anyFloat := rfl
  obtain ⟨-, -, hnearest, -⟩ := float_field_takes_nearest message slot htype
  have hint : message.Stores slot (.int 16777217) ⟨0x4B800000⟩ := ⟨_, rfl, by decide⟩
  have hdigits {digits : List Char} (h : digits.all Char.isDigit = true) :
      ∀ c ∈ digits, c.isDigit = true := List.all_eq_true.mp h
  have htext : Binary32.Literal
      (Text.trim " 34028235677973366163.7539395458142568448E+0019\t".toList)
      (2 ^ 128 - 2 ^ 103) := by
    have hmantissa := @Binary32.Mantissa.point "34028235677973366163".toList
      "7539395458142568448".toList (hdigits (by decide)) (hdigits (by decide)) (by decide)
    have hexponent : Binary32.Exponent ('E' :: "+0019".toList) 19 := .present (.inr rfl)
      ⟨_, _, "0019".toList, .plus, by decide, hdigits (by decide), by decide, by decide⟩
    convert Binary32.Literal.mk .none hmantissa hexponent using 1
    · decide
    · have hplaces : "7539395458142568448".toList.length = 19 := by decide
      have hvalue : Nat.ofDigitChars 10
          ("34028235677973366163".toList ++ "7539395458142568448".toList) 0 =
            340282356779733661637539395458142568448 := by decide
      rw [hvalue, hplaces]
      norm_num [Text.signed]
  have hover : message.Takes slot (2 ^ 128 - 2 ^ 103) .greatest :=
    .text htext rfl ⟨_, rfl, by decide⟩
  exact ⟨htype, hint, by simpa using hnearest _ _ (.integer hint), hover, hnearest _ _ hover⟩

end Message

end Fieldbus
