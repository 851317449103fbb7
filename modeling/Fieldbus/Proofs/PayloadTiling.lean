import Fieldbus.Proofs.FieldWindows
import Mathlib.Logic.ExistsUnique

/-!
# The windows of a layout tile its payload

The offset of a field is the end of the window before it, so the windows of any layout follow each
other from the first byte of the payload to the last, and no two of them share a byte. Strings
without room have empty windows, which hold no byte. Adding up the widths in machine words, the sum
before each field is that field's offset, so the sums are the lengths and offsets of the layout as
long as these fit a word, and stop where they do not.
-/

namespace Fieldbus

variable {fields : List Field}

lemma word?_eq_some_iff {n : Nat} {word : USize} : word? n = some word ↔ word.toNat = n := by
  rw [word?, Option.ite_none_right_eq_some]
  constructor
  · rintro ⟨hn, hword⟩
    rw [← Option.some.inj hword, USize.toNat_ofNat_of_lt' hn]
  · rintro rfl
    exact ⟨word.toNat_lt_size, congrArg some USize.ofNat_toNat⟩

lemma word?_eq_none_iff {n : Nat} : word? n = none ↔ USize.size ≤ n := by
  rw [word?, ite_eq_right_iff, ← Nat.not_lt]
  simp

lemma map_toNat_word? {n : Nat} (h : n < USize.size) : (word? n).map USize.toNat = some n := by
  rw [word?, if_pos h, Option.map_some, USize.toNat_ofNat_of_lt' h]

/-- A sum may be checked on the way to a larger one: where it does not fit a word, neither does the
larger one. -/
lemma word?_bind {m n : Nat} (h : m ≤ n) {next : USize → Option USize}
    (hnext : ∀ word : USize, word.toNat = m → next word = word? n) :
    (word? m).bind next = word? n := by
  cases hword : word? m with
  | none =>
    rw [Option.bind_none, eq_comm, word?_eq_none_iff]
    exact Nat.le_trans (word?_eq_none_iff.mp hword) h
  | some word => exact hnext word (word?_eq_some_iff.mp hword)

namespace Field

lemma le_of_mem_window {i : Fin fields.length} {j position : Nat}
    (hstart : offset fields j ≤ position)
    (hend : position < offset fields i + (fields.get i).type.width) : j ≤ i := by
  refine Nat.not_lt.mp fun hlt => ?_
  have hnext := window_end_le hlt
  omega

lemma existsUnique_window {position : Nat} (h : position < payloadLength fields) :
    ∃! i : Fin fields.length,
      offset fields i ≤ position ∧ position < offset fields i + (fields.get i).type.width := by
  obtain ⟨slot, hstart, hend⟩ := Slot.exists_covering h
  obtain ⟨hindex, hfield⟩ := List.getElem?_eq_some_iff.mp slot.getElem?_index
  rw [← hfield] at hend
  refine ⟨⟨slot.index, hindex⟩, ⟨hstart, hend⟩, ?_⟩
  rintro i ⟨hstart', hend'⟩
  exact Fin.ext (Nat.le_antisymm (le_of_mem_window hstart' hend) (le_of_mem_window hstart hend'))

/-- One round of either sum: the offset of a field becomes that of the next. -/
lemma addTo?_bind {sum : USize} (i : Fin fields.length) (hsum : sum.toNat = offset fields i)
    {total : Nat} (htotal : offset fields (i + 1) ≤ total) {next : USize → Option USize}
    (hnext : ∀ sum : USize, sum.toNat = offset fields (i + 1) → next sum = word? total) :
    (addTo? sum (fields.get i)).bind next = word? total := by
  rw [addTo?, hsum, ← offset_succ]
  exact word?_bind htotal hnext

-- Both loops keep the offset of the field they are at, so each ends with the offset where it stops.

lemma sumFrom_eq {total : USize} {i : Nat} (hsum : total.toNat = offset fields i) :
    sumFrom fields total i = word? (payloadLength fields) := by
  fun_induction sumFrom fields total i with
  | case1 total i h ih =>
    exact addTo?_bind ⟨i, h⟩ hsum (offset_le_payloadLength _ _) ih
  | case2 total i h =>
    rw [eq_comm, word?_eq_some_iff, hsum, offset_of_length_le (Nat.not_lt.mp h)]

lemma sumUpTo_eq {index : Nat} {sum : USize} {i : Nat} (hi : i ≤ index)
    (hsum : sum.toNat = offset fields i) :
    sumUpTo fields index sum i = word? (offset fields index) := by
  fun_induction sumUpTo fields index sum i with
  | case1 sum i h ih =>
    exact addTo?_bind ⟨i, h.2⟩ hsum (offset_mono h.1) fun next => ih next h.1
  | case2 sum i h =>
    rw [eq_comm, word?_eq_some_iff, hsum]
    -- The loop stops at the index, or at the end of the layout, where all offsets are the same.
    obtain rfl | hlt := Nat.eq_or_lt_of_le hi
    · rfl
    · have hend : fields.length ≤ i := by omega
      rw [offset_of_length_le hend, offset_of_length_le (Nat.le_trans hend hi)]

lemma payloadWord?_eq (fields : List Field) : payloadWord? fields = word? (payloadLength fields) :=
  sumFrom_eq USize.toNat_zero

lemma offsetWord?_eq (fields : List Field) (index : Nat) :
    offsetWord? fields index = word? (offset fields index) :=
  sumUpTo_eq (Nat.zero_le _) USize.toNat_zero

lemma wireLength_eq (fields : List Field) : wireLength fields = payloadLength fields + 3 := by
  simp only [wireLength, idLength, checksumLength]
  omega

lemma wireWord?_eq (fields : List Field) : wireWord? fields = word? (wireLength fields) := by
  rw [wireWord?, payloadWord?_eq, wireLength]
  refine word?_bind (by omega) fun payload hpayload => ?_
  rw [hpayload]
  refine word?_bind (by omega) fun body hbody => ?_
  rw [hbody]

/-- The windows of a layout tile its payload, whatever its fields: the first starts at the first
byte, each one starts where the one before it ends, an index past the last field gives the end of
the payload, and every byte of the payload lies in exactly one window. A frame has three bytes more.
Lengths and offsets that fit a machine word are what adding up the widths in words gives; where one
does not fit, its sum stops. -/
theorem windows_tile_payload (fields : List Field) :
    offset fields 0 = 0 ∧
    (∀ i : Fin fields.length,
      offset fields (i + 1) = offset fields i + (fields.get i).type.width) ∧
    (∀ index, fields.length ≤ index → offset fields index = payloadLength fields) ∧
    (∀ position, position < payloadLength fields → ∃! i : Fin fields.length,
      offset fields i ≤ position ∧ position < offset fields i + (fields.get i).type.width) ∧
    (∀ i : Fin fields.length,
      offset fields i + (fields.get i).type.width ≤ payloadLength fields) ∧
    wireLength fields = payloadLength fields + 3 ∧
    (payloadLength fields < USize.size →
      (payloadWord? fields).map USize.toNat = some (payloadLength fields) ∧
      ∀ index, (offsetWord? fields index).map USize.toNat = some (offset fields index)) ∧
    (wireLength fields < USize.size →
      (wireWord? fields).map USize.toNat = some (wireLength fields)) ∧
    (USize.size ≤ payloadLength fields → payloadWord? fields = none) ∧
    (∀ index, USize.size ≤ offset fields index → offsetWord? fields index = none) ∧
    (USize.size ≤ wireLength fields → wireWord? fields = none) := by
  refine ⟨offset_zero fields, offset_succ, fun _ => offset_of_length_le,
    fun _ => existsUnique_window, window_end_le_payloadLength, wireLength_eq fields,
    fun hfits => ⟨?_, ?_⟩, ?_, ?_, ?_, ?_⟩
  · rw [payloadWord?_eq, map_toNat_word? hfits]
  · intro index
    rw [offsetWord?_eq, map_toNat_word?]
    exact Nat.lt_of_le_of_lt (offset_le_payloadLength fields index) hfits
  · intro hfits
    rw [wireWord?_eq, map_toNat_word? hfits]
  · rw [payloadWord?_eq, word?_eq_none_iff]
    exact id
  · intro index
    rw [offsetWord?_eq, word?_eq_none_iff]
    exact id
  · rw [wireWord?_eq, word?_eq_none_iff]
    exact id

/-- Two strings without room share their start with a number or with the end, and hold no byte; a
string of all the bytes a word can count leaves none for the rest of a frame. -/
theorem windows_tile_payload_empty_strings :
    let fields : List Field := [⟨"flag", .uint8 ⟨0, 1⟩⟩, ⟨"gap", .chars 0⟩,
      ⟨"speed", .int16 ⟨-2, 10⟩⟩, ⟨"rest", .chars 0⟩]
    (payloadLength fields = 3 ∧ 3 < USize.size ∧ wireLength fields = 6 ∧ 6 < USize.size) ∧
      offset fields 9 = 3 ∧
      (∃! i : Fin fields.length,
        offset fields i ≤ 1 ∧ 1 < offset fields i + (fields.get i).type.width) ∧
      (payloadWord? fields).map USize.toNat = some 3 ∧
      (offsetWord? fields 2).map USize.toNat = some 1 ∧
      (offsetWord? fields 9).map USize.toNat = some 3 ∧
      (wireWord? fields).map USize.toNat = some 6 ∧
      wireWord? [⟨"all", .chars (USize.size - 1)⟩] = none := by
  intro fields
  obtain ⟨_, _, hpast, honce, _, _, hpayload, hwire, _⟩ := windows_tile_payload fields
  obtain ⟨_, _, _, _, _, _, _, _, _, _, hstops⟩ :=
    windows_tile_payload [⟨"all", .chars (USize.size - 1)⟩]
  have hthree : 3 < USize.size := Nat.lt_of_lt_of_le (by decide) USize.le_size
  have hsix : 6 < USize.size := Nat.lt_of_lt_of_le (by decide) USize.le_size
  refine ⟨⟨rfl, hthree, rfl, hsix⟩, hpast 9 (by decide), honce 1 (by decide), (hpayload hthree).1,
    (hpayload hthree).2 2, (hpayload hthree).2 9, hwire hsix, hstops ?_⟩
  change USize.size ≤ 1 + (USize.size - 1 + 0) + 2
  omega

end Field

end Fieldbus
