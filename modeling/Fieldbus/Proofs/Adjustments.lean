import Fieldbus.Proofs.TextWrites
import Mathlib.Data.List.TakeWhile

/-!
# When a stored value is reported as adjusted

A report is due if a field holds something else than was requested, and it is made by comparing the
request with the value that is read back. For numbers that is the same. A string is read back as
text, with a replacement character for the rest of a character that was cut; so a request that ends
in a replacement character may be cut without a report, and this is the only such case.
-/

namespace Fieldbus

namespace Binary32

lemma rank_eq_iff {x y : Binary32} :
    x.rank = y.rank ↔ x = y ∨ x.magnitude = 0 ∧ y.magnitude = 0 := by
  constructor
  · intro h
    have hx := x.bits.toNat_lt
    have hy := y.bits.toNat_lt
    unfold rank isNegative magnitude signBit at h
    simp only [decide_eq_true_eq] at h
    by_cases hbits : x.bits.toNat = y.bits.toNat
    · left
      cases x
      cases y
      exact congrArg mk (UInt32.toNat_inj.mp hbits)
    · right
      unfold magnitude signBit
      omega
  · rintro (rfl | ⟨hx, hy⟩)
    · rfl
    · simp [rank, hx, hy]

lemma same_iff {x y : Binary32} :
    x.same y = true ↔ y.isNaN = false ∧ (x = y ∨ x.magnitude = 0 ∧ y.magnitude = 0) := by
  simp only [same, Bool.and_eq_true, Bool.not_eq_true', decide_eq_true_eq, rank_eq_iff]
  constructor
  · rintro ⟨⟨_, hy⟩, h⟩
    exact ⟨hy, h⟩
  · rintro ⟨hy, rfl | ⟨hx, hzero⟩⟩
    · exact ⟨⟨hy, hy⟩, .inl rfl⟩
    · refine ⟨⟨?_, hy⟩, .inr ⟨hx, hzero⟩⟩
      simp [isNaN, hx]

end Binary32

namespace FixedString

variable {capacity : Nat}

/-- The text that is kept is read as the whole one exactly if all its bytes are kept, or if a cut
through a last replacement character is read as that character. -/
lemma decodeLossy_kept_iff (capacity : Nat) (text : List Char) :
    Utf8.decodeLossy (kept capacity (Utf8.encode text)) = text ↔
      kept capacity (Utf8.encode text) = Utf8.encode text ∨
        '\x00' ∉ text ∧ Utf8.CutsReplacement text (capacity - 1) := by
  by_cases hnul : '\x00' ∈ text
  · -- What follows the zero character is lost, so too few characters are left.
    have hshort : (text.takeWhile (· ≠ '\x00')).length < text.length := by
      apply Nat.lt_of_le_of_ne (List.takeWhile_prefix _).length_le
      intro hlen
      have hself := (List.takeWhile_prefix (· ≠ '\x00')).eq_of_length hlen
      simpa using List.takeWhile_eq_self_iff.mp hself _ hnul
    have hread : Utf8.decodeLossy (kept capacity (Utf8.encode text)) ≠ text := by
      intro h
      have hle := Utf8.length_decodeLossy_take_le (text.takeWhile (· ≠ '\x00')) (capacity - 1)
      rw [← upToNul_encode] at hle
      rw [show Utf8.decodeLossy ((upToNul (Utf8.encode text)).take (capacity - 1)) = text from h]
        at hle
      omega
    have hkept : kept capacity (Utf8.encode text) ≠ Utf8.encode text := fun h =>
      not_mem_kept capacity _ (h ▸ Utf8.zero_mem_encode.mpr hnul)
    exact iff_of_false hread (fun h => h.elim hkept fun h => h.1 hnul)
  · have hbytes : upToNul (Utf8.encode text) = Utf8.encode text :=
      upToNul_eq_self (mt Utf8.zero_mem_encode.mp hnul)
    rw [kept, hbytes, Utf8.decodeLossy_take_eq_iff]
    apply or_congr
    · constructor
      · exact List.take_of_length_le
      · intro h
        have hlen := congrArg List.length h
        rw [List.length_take] at hlen
        omega
    · exact ⟨fun h => ⟨hnul, h⟩, fun h => h.2⟩

end FixedString

/-- What is stored is not what was requested: another number (a NaN is never the same, the two
zeros are), or other bytes than those of the text. -/
def Datum.DiffersFrom : Datum → FieldValue → Prop
  | .int m, .int n => m ≠ n
  | .float x, .float y => y.isNaN = true ∨ x ≠ y ∧ ¬(x.magnitude = 0 ∧ y.magnitude = 0)
  | .bytes content, .chars text => content ≠ Utf8.encode text.toList
  | _, _ => True

/-- A request that is cut without a trace: its last character is a replacement character, no zero
character stands before it, and the field ends inside it. -/
def FieldType.Masks : FieldType → FieldValue → Prop
  | .chars capacity, .chars text =>
    '\x00' ∉ text.toList ∧ Utf8.CutsReplacement text.toList (capacity - 1)
  | _, _ => False

namespace FieldType

variable {type : FieldType} {requested : FieldValue} {input : type.Input} {name : String}

lemma not_same_store_iff (hshape : requested.shape = type.shape)
    (haccept : type.accept name requested = .ok input) :
    (type.value (type.store input)).same requested = false ↔
      (type.datum (type.store input)).DiffersFrom requested ∧ ¬type.Masks requested := by
  cases type with
  | float32 range =>
    cases requested with
    | float x =>
      rw [← Bool.not_eq_true]
      change ¬Binary32.same _ _ = true ↔ _
      rw [Binary32.same_iff, not_and_or, Bool.not_eq_false, not_or]
      exact (and_iff_left not_false).symm
    | _ => simp [FieldValue.shape, shape] at hshape
  | chars capacity =>
    cases requested with
    | chars text =>
      obtain rfl := Except.ok.inj haccept
      have hread := FixedString.decodeLossy_kept_iff capacity text.toList
      rw [← FixedString.content_ofBytes] at hread
      have hlossy : (FixedString.ofBytes capacity (Utf8.encode text.toList)).lossy = text ↔
          Utf8.decodeLossy (FixedString.ofBytes capacity (Utf8.encode text.toList)).content =
            text.toList := by
        rw [FixedString.lossy, ← String.toList_inj, String.toList_ofList]
      change decide ((FixedString.ofBytes capacity (Utf8.encode text.toList)).lossy = text) =
        false ↔ (FixedString.ofBytes capacity (Utf8.encode text.toList)).content ≠ _ ∧ ¬(_ ∧ _)
      rw [decide_eq_false_iff_not, hlossy, hread, not_or]
    | _ => simp [FieldValue.shape, shape] at hshape
  | _ =>
    cases requested with
    | int n => simp [value, datum, FieldValue.same, Datum.DiffersFrom, Masks]
    | _ => simp [FieldValue.shape, shape] at hshape

end FieldType

namespace Message

/-- The report of a step that stores the value of an assignment: there is one exactly if the field
then holds something else than was requested and the cut is not masked. It is a warning that the
value was adjusted, with the field, the request and what is stored. -/
def ReportsAdjustment (assignment : Assignment) (next : Message) (report : Option Event) : Prop :=
  ∃ slot requested, Slot.find? assignment.field next.kind.fields = some slot ∧
    slot.field.type.parse assignment.value = .ok requested ∧
    (∀ event ∈ report, event = {
      level := .warn
      target := "ducklink_cli::commands::encode"
      message := "value adjusted to fit " ++ slot.field.type.display
      details := [("field", .str slot.field.name), ("requested", .text requested.display),
        ("stored", .text (next.record.valueAt slot).display)] }) ∧
    (report.isSome ↔ (slot.field.type.datum (next.record.get slot)).DiffersFrom requested ∧
      ¬slot.field.type.Masks requested)

lemma reportsAdjustment_of_apply {message next : Message} {assignment : Assignment}
    {report : Option Event} (h : message.apply assignment = .ok (next, report)) :
    ReportsAdjustment assignment next report := by
  obtain ⟨slot, requested, input, hslot, hparse, haccept, rfl, rfl⟩ := apply_cases h
  have hget : (message.record.put slot input).get slot = slot.field.type.store input :=
    Record.get_set _ _ _
  refine ⟨slot, requested, hslot, hparse, ?_, ?_⟩
  · intro event hevent
    unfold reportAt at hevent
    split at hevent
    · nomatch hevent
    · obtain rfl := Option.mem_some.mp hevent
      simp only [Record.valueAt, hget]
      rfl
  · simp only [hget]
    rw [← FieldType.not_same_store_iff (FieldType.shape_of_parse hparse) haccept, reportAt]
    split <;> simp_all

lemma applyAll_append {message : Message} {before rest : List Assignment}
    (h : (message.applyAll (before ++ rest)).1.isOk = true) :
    ∃ held, (message.applyAll before).1 = .ok held ∧
      message.applyAll (before ++ rest) =
        ((held.applyAll rest).1, (message.applyAll before).2 ++ (held.applyAll rest).2) := by
  induction before generalizing message with
  | nil => exact ⟨message, rfl, rfl⟩
  | cons assignment before ih =>
    rw [List.cons_append, applyAll] at h ⊢
    rw [applyAll]
    cases happly : message.apply assignment with
    | error fault => simp [happly, Except.isOk, Except.toBool] at h
    | ok step =>
      obtain ⟨next, report⟩ := step
      rw [happly] at h
      obtain ⟨held, hheld, hall⟩ := ih h
      refine ⟨held, hheld, ?_⟩
      simp only [hall, List.append_assoc]

/-- In a build that succeeds, every assignment in its turn stores a value that it could read; its
step is reported exactly if the field then holds something else than was requested, unless a
replacement character at the end of the request was cut. -/
theorem build_reports_adjustments {kind : Kind} {before after : List Assignment}
    {assignment : Assignment} (h : (build kind (before ++ assignment :: after)).1.isOk = true) :
    ∃ held next report, (build kind before).1 = .ok held ∧
      held.apply assignment = .ok (next, report) ∧
      (build kind (before ++ assignment :: after)).2 =
        (build kind before).2 ++ report.toList ++ (next.applyAll after).2 ∧
      ReportsAdjustment assignment next report := by
  obtain ⟨held, hheld, hall⟩ := applyAll_append h
  rw [build, hall] at h
  rw [applyAll] at h hall
  cases happly : held.apply assignment with
  | error fault => simp [happly, Except.isOk, Except.toBool] at h
  | ok step =>
    obtain ⟨next, report⟩ := step
    rw [happly] at hall
    refine ⟨held, next, report, hheld, happly, ?_, reportsAdjustment_of_apply happly⟩
    rw [build, hall, List.append_assoc]
    rfl

/-- A request for no number at all is reported between two that fit, with the lower end that is
stored in its place. -/
theorem build_reports_adjustments_nan :
    let before : List Assignment := [⟨"entier", " 7"⟩]
    let after : List Assignment := [⟨"name", "x"⟩]
    let built := build .upPlop (before ++ ⟨"decimal", "nan"⟩ :: after)
    built.1.isOk = true ∧
      built.2 = [⟨.warn, "ducklink_cli::commands::encode", "value adjusted to fit f32 [-30, 1000]",
        [("field", .str "decimal"), ("requested", .text "NaN"), ("stored", .text "-30")]⟩] ∧
      ∃ held next report, (build .upPlop before).1 = .ok held ∧
        held.apply ⟨"decimal", "nan"⟩ = .ok (next, report) ∧
        built.2 = (build .upPlop before).2 ++ report.toList ++ (next.applyAll after).2 ∧
        ReportsAdjustment ⟨"decimal", "nan"⟩ next report :=
  ⟨by decide, by decide, build_reports_adjustments (by decide)⟩

/-- Ten letters and a replacement character: the field keeps one of its three bytes, which is other
content than was requested, and nothing is reported. -/
theorem build_cut_replacement_unreported :
    let assignment : Assignment := ⟨"name", "aaaaaaaaaa\ufffd"⟩
    (build .upPlop [assignment]).2 = [] ∧
      (build .upPlop [assignment]).1.toOption.map body =
        some ([2, 0, 0, 0, 0, 0, 0] ++ List.replicate 10 97 ++ [0xEF, 0]) ∧
      Utf8.encode assignment.value.toList = List.replicate 10 97 ++ [0xEF, 0xBF, 0xBD] := by
  decide

end Message

end Fieldbus
