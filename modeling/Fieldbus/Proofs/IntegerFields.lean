import Fieldbus.Proofs.LastAssignments
import Fieldbus.Proofs.NumberText
import Fieldbus.Proofs.ReachableMessages

/-!
# What an integer field makes of a text

The text of an assignment is read without the blanks around it. An integer of 64 bits is clamped
into the range of the field, whatever the width of the field; a larger one is refused by its size,
and every other text is refused as it was typed.
-/

namespace Fieldbus

lemma Narrow.toInt_applyWide {α : Type} [LE α] [LT α] [DecidableLE α] [Narrow α]
    [LawfulNarrow α] {range : Bounds α} {v : α} (h : range.contains v = true) (n : Int) :
    toInt (range.applyWide n) = max (toInt range.min) (min n (toInt range.max)) := by
  have hle := (LawfulNarrow.le_iff _ _).mp (Bounds.min_le_max_of_contains h)
  rw [Bounds.toInt_applyWide]
  exact Ranked.rank_clamp hle trivial

namespace FieldType

def limits? : FieldType → Option (Int × Int)
  | .int8 range => some (range.min.toInt, range.max.toInt)
  | .int16 range => some (range.min.toInt, range.max.toInt)
  | .uint8 range => some (range.min.toNat, range.max.toNat)
  | .float32 _ | .chars _ => none

variable {type : FieldType} {lo hi : Int}

lemma parse_integer (h : type.limits? = some (lo, hi)) {raw : String} {n : Int}
    (hread : Text.readInt64 (Text.trim raw.toList) = .ok n) : type.parse raw = .ok (.int n) := by
  cases type <;> simp only [limits?, reduceCtorEq] at h <;> simp only [parse, hread]

lemma parse_not_integer (h : type.limits? = some (lo, hi)) {raw : String}
    {fault : Text.IntegerFault} (hread : Text.readInt64 (Text.trim raw.toList) = .error fault) :
    type.parse raw = .error (.invalidValue type.name raw fault.message) := by
  cases type <;> simp only [limits?, reduceCtorEq] at h <;> simp only [parse, hread]

lemma exists_accept_int (h : type.limits? = some (lo, hi)) (hwf : type.WellFormed) (n : Int) :
    ∃ input, (∀ name, type.accept name (.int n) = .ok input) ∧
      type.value (type.store input) = .int (max lo (min n hi)) := by
  cases type <;> simp only [limits?, Option.some.injEq, Prod.mk.injEq, reduceCtorEq] at h
  all_goals
    obtain ⟨rfl, rfl⟩ := h
    exact ⟨n, fun _ => rfl, congrArg FieldValue.int (Narrow.toInt_applyWide hwf n)⟩

end FieldType

namespace Message

lemma applyAll_append_fst (message : Message) (before rest : List Assignment) :
    (message.applyAll (before ++ rest)).1 =
      (message.applyAll before).1.bind fun held => (held.applyAll rest).1 := by
  induction before generalizing message with
  | nil => rfl
  | cons assignment before ih =>
    rw [List.cons_append, applyAll, applyAll]
    cases message.apply assignment with
    | error fault => rfl
    | ok step => exact ih step.1

variable {kind : Kind} {before : List Assignment} {held : Message}

lemma build_concat (h : (build kind before).1 = .ok held) (assignment : Assignment) :
    (build kind (before ++ [assignment])).1 = (held.apply assignment).map Prod.fst := by
  rw [build] at h ⊢
  rw [applyAll_append_fst, h]
  change (held.applyAll [assignment]).1 = _
  rw [applyAll]
  cases held.apply assignment <;> rfl

lemma build_concat_of_parse {slot : Slot kind.fields} (h : (build kind before).1 = .ok held)
    {raw : String} {requested : FieldValue} {input : slot.field.type.Input}
    (hparse : slot.field.type.parse raw = .ok requested)
    (haccept : slot.field.type.accept slot.field.name requested = .ok input) :
    ∃ message, (build kind (before ++ [⟨slot.field.name, raw⟩])).1 = .ok message ∧
      message.field? slot.field.name =
        some (slot.field.type.value (slot.field.type.store input)) := by
  obtain ⟨-, record, rfl, -⟩ := assigned?_of_build h
  have happly : apply ⟨kind, record⟩ ⟨slot.field.name, raw⟩ = .ok (_, _) :=
    apply_eq_ok (Slot.find?_name kind.nodup_names slot) hparse haccept
  refine ⟨⟨kind, record.put slot input⟩, ?_, field?_put ⟨kind, record⟩ slot input⟩
  rw [build_concat h, happly]
  rfl

lemma build_concat_of_fault {slot : Slot kind.fields} (h : (build kind before).1 = .ok held)
    {raw reason : String} (hparse : slot.field.type.parse raw =
      .error (.invalidValue slot.field.type.name raw reason)) :
    (build kind (before ++ [⟨slot.field.name, raw⟩])).1 =
      .error (.invalidValue slot.field.type.name raw reason) := by
  obtain ⟨-, record, rfl, -⟩ := assigned?_of_build h
  have happly : apply ⟨kind, record⟩ ⟨slot.field.name, raw⟩ = .error _ :=
    apply_eq_error_iff.mpr (.invalidValue slot reason rfl hparse)
  rw [build_concat h, happly]
  rfl

/-- After assignments that were taken, an integer field is assigned a text. If the text is an
integer between blanks, the field holds it clamped into its range, as long as it has 64 bits; if
not, the text is refused because the number is too large or too small. Every other text is refused.
-/
theorem build_integer_text (slot : Slot kind.fields) {lo hi : Int}
    (hlimits : slot.field.type.limits? = some (lo, hi)) (h : (build kind before).1 = .ok held)
    (raw : String) :
    let built : Except FieldError Message :=
      (build kind (before ++ [⟨slot.field.name, raw⟩])).1
    (∀ z, Text.Numeral (Text.trim raw.toList) z →
      (-9223372036854775808 ≤ z → z ≤ 9223372036854775807 →
        ∃ message, built = .ok message ∧
          message.field? slot.field.name = some (.int (max lo (min z hi)))) ∧
      (9223372036854775807 < z → built = .error (.invalidValue slot.field.type.name raw
        "number too large to fit in target type")) ∧
      (z < -9223372036854775808 → built = .error (.invalidValue slot.field.type.name raw
        "number too small to fit in target type"))) ∧
    ((∀ z, ¬Text.Numeral (Text.trim raw.toList) z) →
      ∃ reason, built = .error (.invalidValue slot.field.type.name raw reason)) := by
  intro built
  constructor
  · intro z hz
    have hread : Text.readInteger (-9223372036854775808) 9223372036854775807 _ = _ :=
      Text.readInteger_numeral (by decide) (by decide) hz
    refine ⟨?_, ?_, ?_⟩
    · intro hlo hhi
      rw [if_neg (by omega), if_neg (by omega)] at hread
      obtain ⟨input, haccept, hvalue⟩ := FieldType.exists_accept_int hlimits
        (kind.wellFormed_fields _ slot.field_mem) z
      rw [← hvalue]
      exact build_concat_of_parse h (FieldType.parse_integer hlimits hread) (haccept _)
    · intro hlarge
      rw [if_pos hlarge] at hread
      exact build_concat_of_fault h (FieldType.parse_not_integer hlimits hread)
    · intro hsmall
      rw [if_neg (by omega), if_pos hsmall] at hread
      exact build_concat_of_fault h (FieldType.parse_not_integer hlimits hread)
  · intro hnone
    cases hread : Text.readInt64 (Text.trim raw.toList) with
    | ok n =>
      obtain ⟨z, hz⟩ := Text.numeral_of_readInteger (by decide) hread
      exact absurd hz (hnone z)
    | error fault =>
      exact ⟨_, build_concat_of_fault h (FieldType.parse_not_integer hlimits hread)⟩

/-- A field for numbers from 0 to 10 is given a number with many zeros, the least and one more than
the greatest of 64 bits, and two numbers at once. -/
theorem build_integer_text_ends :
    let kind : Kind := .upSpeedReport
    let slot : Slot kind.fields := .here
    let built (raw : String) : Except FieldError Message :=
      (build kind ([⟨"vx", "-3"⟩] ++ [⟨slot.field.name, raw⟩])).1
    slot.field.type.limits? = some (0, 10) ∧
      (∃ message, built " +00000000000000000000200\u3000" = .ok message ∧
        message.field? slot.field.name = some (.int 10)) ∧
      (∃ message, built "-9223372036854775808" = .ok message ∧
        message.field? slot.field.name = some (.int 0)) ∧
      built "9223372036854775808" = .error (.invalidValue "u8" "9223372036854775808"
        "number too large to fit in target type") ∧
      ∃ reason, built "1 2" = .error (.invalidValue "u8" "1 2" reason) := by
  intro kind slot built
  obtain ⟨held, hheld⟩ : ∃ held, (build kind [⟨"vx", "-3"⟩]).1 = .ok held := ⟨_, rfl⟩
  have hlimits : slot.field.type.limits? = some (0, 10) := rfl
  have hbuilt := build_integer_text slot hlimits hheld
  have hdigits {digits : List Char} (h : digits.all Char.isDigit = true) :
      ∀ c ∈ digits, c.isDigit = true := List.all_eq_true.mp h
  have hzeros : Text.Numeral (Text.trim " +00000000000000000000200\u3000".toList) 200 :=
    ⟨_, _, "00000000000000000000200".toList, .plus, by decide, hdigits (by decide), by decide,
      by decide⟩
  have hleast : Text.Numeral (Text.trim "-9223372036854775808".toList) (-9223372036854775808) :=
    ⟨_, _, "9223372036854775808".toList, .minus, by decide, hdigits (by decide), by decide,
      by decide⟩
  have hlarge : Text.Numeral (Text.trim "9223372036854775808".toList) 9223372036854775808 :=
    ⟨_, _, "9223372036854775808".toList, .none, by decide, hdigits (by decide), by decide,
      by decide⟩
  have hnone (z : Int) : ¬Text.Numeral (Text.trim "1 2".toList) z := by
    intro hz
    have hread : Text.readInteger (-1) 1 _ = _ :=
      Text.readInteger_numeral (by decide) (by decide) hz
    have hfault : Text.readInteger (-1) 1 (Text.trim "1 2".toList) = .error .invalidDigit := rfl
    rw [hfault] at hread
    split_ifs at hread <;> simp at hread
  exact ⟨hlimits, ((hbuilt _).1 _ hzeros).1 (by decide) (by decide),
    ((hbuilt _).1 _ hleast).1 (by decide) (by decide), ((hbuilt _).1 _ hlarge).2.1 (by decide),
    (hbuilt _).2 hnone⟩

end Message

end Fieldbus
