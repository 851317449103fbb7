import Fieldbus.Proofs.FrameRoundTrip

/-!
# Only the last write counts

A write clears all bytes of a string before it copies, so what a string holds after any number of
writes is decided by the last one: the bytes before its first zero byte, cut to leave room for a
terminator, and zero bytes after them. A string that was written is therefore determined by its
content, and writing its content or all its bytes over it changes nothing.
-/

namespace Fieldbus

namespace FixedString

variable {capacity : Nat}

lemma take_min_eq_kept (capacity : Nat) (bytes : List UInt8) :
    (upToNul bytes).take (min (upToNul bytes).length (capacity - 1)) = kept capacity bytes := by
  rw [kept, List.take_eq_take_iff]
  omega

lemma write_eq (s : FixedString capacity) (bytes : List UInt8) :
    s.write bytes = (ofBytes capacity bytes, overflows capacity bytes) := by
  -- Here the old bytes go: of the string only its capacity is left.
  have hcleared : (s.raw.map fun _ => (0 : UInt8)) = List.replicate capacity 0 := by
    rw [List.map_const', s.length_raw]
  have hlength : (kept capacity bytes).length = min (upToNul bytes).length (capacity - 1) := by
    rw [kept, List.length_take, Nat.min_comm]
  apply Prod.ext
  · apply eq_of_raw_eq
    change (upToNul bytes).take _ ++ (s.raw.map fun _ => 0).drop _ = kept capacity bytes ++ _
    rw [take_min_eq_kept, hcleared, List.drop_replicate, hlength]
  · rfl

lemma content_eq_take_length (s : FixedString capacity) : s.content = s.raw.take s.length := by
  rw [content, upToNul, length, List.takeWhile_eq_take_findIdx_not]
  congr 2
  funext byte
  simp

lemma length_eq (s : FixedString capacity) : s.length = s.content.length := by
  rw [content_eq_take_length, List.length_take]
  exact (Nat.min_eq_left List.findIdx_le_length).symm

lemma raw_ofBytes (capacity : Nat) (bytes : List UInt8) :
    (ofBytes capacity bytes).raw = (ofBytes capacity bytes).content ++
      List.replicate (capacity - (ofBytes capacity bytes).content.length) 0 := by
  rw [content_ofBytes]
  rfl

lemma length_content_ofBytes_le (capacity : Nat) (bytes : List UInt8) :
    (ofBytes capacity bytes).content.length ≤ capacity - 1 := by
  rw [content_ofBytes, kept, List.length_take]
  exact Nat.min_le_left _ _

lemma ofBytes_eq_iff {bytes bytes' : List UInt8} :
    ofBytes capacity bytes = ofBytes capacity bytes' ↔
      (ofBytes capacity bytes).content = (ofBytes capacity bytes').content := by
  constructor
  · exact congrArg content
  · intro h
    apply eq_of_raw_eq
    rw [raw_ofBytes, raw_ofBytes capacity bytes', h]

lemma write_same {bytes again : List UInt8}
    (h : upToNul again = (ofBytes capacity bytes).content) :
    (ofBytes capacity bytes).write again = (ofBytes capacity bytes, false) := by
  have hle := length_content_ofBytes_le capacity bytes
  have hkept : kept capacity again = (ofBytes capacity bytes).content := by
    rw [kept, h, List.take_of_length_le hle]
  rw [write_eq]
  apply Prod.ext
  · rw [ofBytes_eq_iff, content_ofBytes, hkept]
  · simpa [overflows, h] using hle

/-- The string after byte lists were written over an empty one in turn. -/
def afterWrites (capacity : Nat) (history : List (List UInt8)) : FixedString capacity :=
  history.foldl (fun s bytes => (s.write bytes).1) (empty capacity)

/-- Whatever was written before, a string holds the bytes before the first zero byte of the last
write, cut to leave room for a terminator, and zero bytes after them. It tells whether that write
was cut, takes its own bytes without a change, and equals another such string exactly if the
contents are equal. -/
theorem last_write_decides (capacity : Nat) (history : List (List UInt8)) (bytes : List UInt8) :
    let written : FixedString capacity × Bool := (afterWrites capacity history).write bytes
    let source := bytes.takeWhile (· ≠ 0)
    let s := written.1
    s.content = source.take (min source.length (capacity - 1)) ∧
    s.content = s.raw.take s.length ∧ s.length = s.content.length ∧
    s.raw = s.content ++ List.replicate (capacity - s.content.length) 0 ∧
    (written.2 = true ↔ capacity - 1 < source.length) ∧
    (1 ≤ capacity → 0 ∈ s.raw) ∧
    s.write s.content = (s, false) ∧ s.write s.raw = (s, false) ∧
    ∀ (history' : List (List UInt8)) (bytes' : List UInt8),
      let t := ((afterWrites capacity history').write bytes').1
      s = t ↔ s.content = t.content := by
  dsimp only
  rw [write_eq (afterWrites capacity history) bytes]
  refine ⟨?_, content_eq_take_length _, length_eq _, raw_ofBytes capacity bytes, ?_, ?_, ?_, ?_, ?_⟩
  · rw [content_ofBytes]
    exact (take_min_eq_kept capacity bytes).symm
  · exact decide_eq_true_iff
  · intro hpos
    have hle := length_content_ofBytes_le capacity bytes
    rw [raw_ofBytes]
    apply List.mem_append_right
    rw [List.mem_replicate]
    exact ⟨by omega, rfl⟩
  · apply write_same
    exact upToNul_eq_self (not_mem_upToNul _)
  · exact write_same rfl
  · intro history' bytes'
    rw [write_eq (afterWrites capacity history') bytes']
    exact ofBytes_eq_iff

theorem last_write_decides_after_cut :
    let s := ((afterWrites 4 [[97, 98, 99, 100, 101]]).write [0xFF, 0, 7]).1
    1 ≤ 4 ∧ s.raw = [0xFF, 0, 0, 0] ∧ 0 ∈ s.raw ∧ s.write s.raw = (s, false) ∧
      ((afterWrites 0 [[97]]).write [98]).2 = true := by
  obtain ⟨_, _, _, _, _, hnul, _, hraw, _⟩ :=
    last_write_decides 4 [[97, 98, 99, 100, 101]] [0xFF, 0, 7]
  obtain ⟨_, _, _, _, hcut, _⟩ := last_write_decides 0 [[97]] [98]
  exact ⟨by decide, by decide, hnul (by decide), hraw, hcut.mpr (by decide)⟩

end FixedString

/-- A field that is set in place holds what is stored for the input, whatever it held before. -/
lemma FieldType.overwrite_eq (type : FieldType) (cell : type.Cell) (input : type.Input) :
    type.overwrite cell input = (type.store input, type.truncates input) := by
  cases type with
  | chars capacity => simp only [overwrite, FixedString.write_eq, store, truncates]
  | _ => rfl

end Fieldbus
