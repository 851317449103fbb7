import Fieldbus.Proofs.Assignments
import Fieldbus.Proofs.FrameRoundTrip
import Fieldbus.Proofs.Utf8Text

/-!
# What a text reads back as

A text is stored by its bytes up to the first zero character, cut by bytes, and read back with a
replacement character for every ill-formed run. Hence the whole characters that fit come back as
they are, and if the cut goes through a character, exactly one replacement character follows them.
-/

namespace Fieldbus

namespace Utf8

/-- A text cut before the first character that does not fit in `n` bytes any more. -/
def fitting (n : Nat) : List Char → List Char
  | [] => []
  | c :: text => if c.utf8Size ≤ n then c :: fitting (n - c.utf8Size) text else []

structure LongestFit (n : Nat) (text start : List Char) : Prop where
  isStart : start <+: text
  fits : (encode start).length ≤ n
  longest : ∀ other, other <+: text → (encode other).length ≤ n → other.length ≤ start.length

lemma longestFit_fitting (n : Nat) (text : List Char) : LongestFit n text (fitting n text) := by
  induction text generalizing n with
  | nil => exact ⟨List.prefix_refl _, Nat.zero_le _, fun other h _ => h.length_le⟩
  | cons c text ih =>
    by_cases hc : c.utf8Size ≤ n
    · obtain ⟨hstart, hfits, hlongest⟩ := ih (n - c.utf8Size)
      rw [fitting, if_pos hc]
      refine ⟨List.cons_prefix_cons.mpr ⟨rfl, hstart⟩, ?_, ?_⟩
      · rw [length_encode_cons]
        omega
      · intro other hother hlen
        cases other with
        | nil => exact Nat.zero_le _
        | cons d other =>
          obtain ⟨rfl, hrest⟩ := List.cons_prefix_cons.mp hother
          rw [length_encode_cons] at hlen
          exact Nat.succ_le_succ (hlongest other hrest (by omega))
    · -- The first character does not fit, so no start but the empty one does.
      rw [fitting, if_neg hc]
      refine ⟨List.nil_prefix, Nat.zero_le _, ?_⟩
      intro other hother hlen
      cases other with
      | nil => exact Nat.zero_le _
      | cons d other =>
        obtain ⟨rfl, _⟩ := List.cons_prefix_cons.mp hother
        rw [length_encode_cons] at hlen
        omega

/-- A text that was cut by bytes is read as the characters that fit, and a replacement character for
what is left of the next one. -/
lemma decodeLossy_take_encode (n : Nat) (text : List Char) :
    decodeLossy ((encode text).take n) =
      if (encode text).length ≤ n then text
      else if (encode (fitting n text)).length = n then fitting n text
      else fitting n text ++ ['\ufffd'] := by
  induction text generalizing n with
  | nil =>
    rw [if_pos (show (encode []).length ≤ n from Nat.zero_le n),
      show (encode []).take n = [] from List.take_nil]
    rfl
  | cons c text ih =>
    have hlen := length_encode_cons c text
    by_cases hc : c.utf8Size ≤ n
    · have hfits := length_encode_cons c (fitting (n - c.utf8Size) text)
      have hwhole : (encode text).length ≤ n - c.utf8Size ↔ (encode (c :: text)).length ≤ n := by
        omega
      have hfull : (encode (fitting (n - c.utf8Size) text)).length = n - c.utf8Size ↔
          (encode (c :: fitting (n - c.utf8Size) text)).length = n := by omega
      rw [decodeLossy_take_encode_cons hc, ih, fitting, if_pos hc]
      simp only [hwhole, hfull]
      split_ifs <;> rfl
    · -- Nothing of the text fits but bytes of its first character.
      rw [fitting, if_neg hc, if_neg (by omega)]
      by_cases hn : n = 0
      · subst hn
        rfl
      · rw [decodeLossy_take_of_lt (by omega) (by omega),
          if_neg (show (encode []).length ≠ n from Ne.symm hn)]
        rfl

lemma zero_mem_utf8EncodeChar {c : Char} : 0 ∈ String.utf8EncodeChar c ↔ c = '\x00' := by
  constructor
  · intro h
    have hhigh {a b : Nat} (ha : 0 < b) (hb : a + b < 256) : (0 : UInt8) ≠ UInt8.ofNat (a + b) := by
      intro heq
      have := congrArg UInt8.toNat heq
      rw [toNat_byte hb] at this
      change 0 = a + b at this
      omega
    unfold String.utf8EncodeChar at h
    dsimp only at h
    split_ifs at h with h₁ h₂ h₃
    · have hzero := congrArg UInt8.toNat (List.mem_singleton.mp h)
      rw [toNat_byte (by omega)] at hzero
      apply Char.toNat_inj.mp
      exact hzero.symm
    -- Of the longer forms every byte has its high bit set.
    all_goals simp only [List.mem_cons, List.not_mem_nil, or_false] at h
    · rcases h with h | h <;> exact absurd h (hhigh (by omega) (by omega))
    · rcases h with h | h | h <;> exact absurd h (hhigh (by omega) (by omega))
    · rcases h with h | h | h | h <;> exact absurd h (hhigh (by omega) (by omega))
  · rintro rfl
    decide

lemma zero_mem_encode {text : List Char} : 0 ∈ encode text ↔ '\x00' ∈ text := by
  rw [encode, List.mem_flatMap]
  constructor
  · rintro ⟨c, hc, hzero⟩
    exact zero_mem_utf8EncodeChar.mp hzero ▸ hc
  · intro h
    exact ⟨_, h, zero_mem_utf8EncodeChar.mpr rfl⟩

end Utf8

namespace FixedString

lemma upToNul_encode (text : List Char) :
    upToNul (Utf8.encode text) = Utf8.encode (text.takeWhile (· ≠ '\x00')) := by
  induction text with
  | nil => rfl
  | cons c text ih =>
    rw [Utf8.encode_cons]
    by_cases hc : c = '\x00'
    · subst hc
      rfl
    · have hzero : ∀ byte ∈ String.utf8EncodeChar c, decide (byte ≠ 0) = true := by
        intro byte hbyte
        apply decide_eq_true
        rintro rfl
        exact hc (Utf8.zero_mem_utf8EncodeChar.mp hbyte)
      rw [upToNul, List.takeWhile_append_of_pos hzero,
        List.takeWhile_cons_of_pos (by simpa using hc), Utf8.encode_cons]
      exact congrArg _ ih

lemma lossy_ofBytes_encode (capacity : Nat) (text : String) :
    let source := text.toList.takeWhile (· ≠ '\x00')
    let start := Utf8.fitting (capacity - 1) source
    (ofBytes capacity (Utf8.encode text.toList)).lossy = String.ofList
      (if (Utf8.encode source).length ≤ capacity - 1 then source
      else if (Utf8.encode start).length = capacity - 1 then start
      else start ++ ['\ufffd']) := by
  rw [lossy, content_ofBytes, kept, upToNul_encode, Utf8.decodeLossy_take_encode]

end FixedString

lemma FieldType.exists_accept_chars {type : FieldType} {capacity : Nat}
    (h : type = .chars capacity) (name text : String) :
    ∃ input, type.accept name (.chars text) = .ok input ∧
      type.value (type.store input) =
        .chars (FixedString.ofBytes capacity (Utf8.encode text.toList)).lossy := by
  subst h
  exact ⟨_, rfl, rfl⟩

namespace Message

/-- A text that is written to a string field reads back up to its first zero character if that much
fits. If not, it reads back as the longest start in whole characters that fits, and a replacement
character after it unless that start fills the field. -/
theorem setField_text_reads_back (message : Message) (slot : Slot message.kind.fields)
    {capacity : Nat} (h : slot.field.type = .chars capacity) (text : String) :
    let source := text.toList.takeWhile (· ≠ '\x00')
    let start := Utf8.fitting (capacity - 1) source
    Utf8.LongestFit (capacity - 1) source start ∧
      ∃ next, message.setField slot.field.name (.chars text) = .ok next ∧
        next.field? slot.field.name = some (.chars (String.ofList
          (if (Utf8.encode source).length ≤ capacity - 1 then source
          else if (Utf8.encode start).length = capacity - 1 then start
          else start ++ ['\ufffd']))) := by
  obtain ⟨input, haccept, hvalue⟩ := FieldType.exists_accept_chars h slot.field.name text
  refine ⟨Utf8.longestFit_fitting _ _, ⟨message.kind, message.record.put slot input⟩, ?_, ?_⟩
  · rw [setField_name, haccept]
    rfl
  · rw [field?_put, hvalue, FixedString.lossy_ofBytes_encode]

/-- The twelve bytes of a name hold nine letters and two bytes of the sign after them, which are
read as one replacement character. -/
theorem setField_text_reads_back_cut_sign :
    let message := (fresh .upPlop).run [.put "name" (.bytes [0xFF, 0xFE, 0xFD])]
    let slot : Slot message.kind.fields := .there (.there .here)
    slot.field.type = .chars 12 ∧
      ∃ next, message.setField "name" (.chars "aaaaaaaaa€b") = .ok next ∧
        next.field? "name" = some (.chars "aaaaaaaaa\ufffd") := by
  intro message slot
  obtain ⟨_, next, hset, hread⟩ := setField_text_reads_back message slot rfl "aaaaaaaaa€b"
  exact ⟨rfl, next, hset, hread.trans (by decide)⟩

end Message

end Fieldbus
