import Fieldbus.Text.Hex
import Mathlib.Data.List.Induction
import Mathlib.Tactic.Lemma

/-!
# Reading typed hexadecimal text

An operator types digits with separators anywhere between them and perhaps a mark in front. What is
read depends on the digits alone: the digits that print some bytes, in either case, are read as
these bytes, and an even number of further digits adds half as many bytes.
-/

namespace Fieldbus

namespace Hex

def alphabet : List Char := "0123456789abcdefABCDEF".toList

/-- What may stand in front of the digits. -/
def marks : List (List Char) := ["".toList, "0x".toList, "0X".toList]

/-- A text is made of the given characters, in order, with separators inserted anywhere. -/
inductive Spaced : List Char → List Char → Prop where
  | nil : Spaced [] []
  | keep {kept text : List Char} (c : Char) (h : Spaced kept text) : Spaced (c :: kept) (c :: text)
  | insert {kept text : List Char} {c : Char} (hc : isSeparator c = true) (h : Spaced kept text) :
      Spaced kept (c :: text)

def Typed (digits text : List Char) : Prop :=
  ∃ mark ∈ marks, ∃ spaced, Spaced digits spaced ∧ text = mark ++ spaced

def code (c : Char) : UInt8 := UInt8.ofNat c.toNat

section Digits

variable {c : Char}

lemma utf8EncodeChar_of_mem (h : c ∈ alphabet) : String.utf8EncodeChar c = [code c] := by
  have hall : alphabet.all (fun c => String.utf8EncodeChar c = [code c]) = true := by decide
  exact of_decide_eq_true (List.all_eq_true.mp hall c h)

lemma exists_value?_of_mem (h : c ∈ alphabet) : ∃ n, value? (code c) = some n := by
  have hall : alphabet.all (fun c => (value? (code c)).isSome) = true := by decide
  exact Option.isSome_iff_exists.mp (List.all_eq_true.mp hall c h)

lemma isSeparator_of_mem (h : c ∈ alphabet) : isSeparator c = false := by
  have hall : alphabet.all (fun c => isSeparator c = false) = true := by decide
  exact of_decide_eq_true (List.all_eq_true.mp hall c h)

lemma digit_mem (upper : Bool) {n : Nat} (h : n < 16) : digit upper n ∈ alphabet := by
  have hall : ∀ upper : Bool, ∀ n : Fin 16, digit upper n ∈ alphabet := by decide
  exact hall upper ⟨n, h⟩

lemma value?_digit (upper : Bool) {n : Nat} (h : n < 16) :
    value? (code (digit upper n)) = some n := by
  have hall : ∀ upper : Bool, ∀ n : Fin 16, value? (code (digit upper n)) = some n.val := by decide
  exact hall upper ⟨n, h⟩

end Digits

lemma mem_alphabet_of_mem_format {bytes : List UInt8} {upper : Bool} {c : Char}
    (h : c ∈ format bytes upper) : c ∈ alphabet := by
  obtain ⟨byte, _, hpair⟩ := List.mem_flatMap.mp h
  have hbyte := byte.toNat_lt
  simp only [pair, List.mem_cons, List.not_mem_nil, or_false] at hpair
  obtain rfl | rfl := hpair
  · exact digit_mem upper (by omega)
  · exact digit_mem upper (by omega)

lemma length_format (bytes : List UInt8) (upper : Bool) :
    (format bytes upper).length = 2 * bytes.length := by
  induction bytes with
  | nil => rfl
  | cons byte bytes ih =>
    rw [format, List.flatMap_cons, List.length_append, ← format, ih, List.length_cons]
    change 2 + 2 * bytes.length = _
    omega

lemma encode_eq_map_code {text : List Char} (h : ∀ c ∈ text, c ∈ alphabet) :
    Utf8.encode text = text.map code := by
  induction text with
  | nil => rfl
  | cons c text ih =>
    obtain ⟨hc, htext⟩ := List.forall_mem_cons.mp h
    rw [Utf8.encode, List.flatMap_cons, utf8EncodeChar_of_mem hc, List.map_cons, ← ih htext]
    rfl

/-! ## Digits and separators -/

lemma isSeparator_of_isBlank {c : Char} (h : Text.isBlank c = true) : isSeparator c = true := by
  rw [isSeparator, h]
  rfl

lemma filter_dropWhile_isBlank (text : List Char) :
    (text.dropWhile Text.isBlank).filter (fun c => !isSeparator c) =
      text.filter fun c => !isSeparator c := by
  induction text with
  | nil => rfl
  | cons c text ih =>
    cases hc : Text.isBlank c with
    | false => rw [List.dropWhile_cons_of_neg (by simp [hc])]
    | true =>
      rw [List.dropWhile_cons_of_pos hc, ih, List.filter_cons_of_neg]
      simp [isSeparator_of_isBlank hc]

lemma filter_trimEnd (text : List Char) :
    (Text.trimEnd text).filter (fun c => !isSeparator c) = text.filter fun c => !isSeparator c := by
  rw [Text.trimEnd, List.filter_reverse, filter_dropWhile_isBlank, List.filter_reverse,
    List.reverse_reverse]

lemma filter_trim (text : List Char) :
    (Text.trim text).filter (fun c => !isSeparator c) = text.filter fun c => !isSeparator c := by
  rw [Text.trim, filter_trimEnd, filter_dropWhile_isBlank]

lemma mem_of_mem_trim {text : List Char} {c : Char} (h : c ∈ Text.trim text) : c ∈ text := by
  rw [Text.trim, Text.trimEnd, List.mem_reverse] at h
  have h := (List.dropWhile_suffix _).subset h
  rw [List.mem_reverse] at h
  exact (List.dropWhile_suffix _).subset h

lemma trimEnd_cons {c : Char} (hc : Text.isBlank c = false) (text : List Char) :
    Text.trimEnd (c :: text) = c :: Text.trimEnd text := by
  rw [Text.trimEnd, Text.trimEnd, List.reverse_cons, List.dropWhile_append]
  cases hrest : text.reverse.dropWhile Text.isBlank with
  | nil =>
    rw [if_pos List.isEmpty_nil, List.dropWhile_cons_of_neg (by simp [hc])]
    rfl
  | cons last rest =>
    rw [if_neg (by simp), List.reverse_append]
    rfl

lemma dropMark_of_not_mem {text : List Char} (hx : 'x' ∉ text) (hX : 'X' ∉ text) :
    dropMark text = text := by
  unfold dropMark
  split
  · simp at hx
  · simp at hX
  · rfl

section Texts

variable {kept text : List Char}

lemma spaced_filter (text : List Char) : Spaced (text.filter fun c => !isSeparator c) text := by
  induction text with
  | nil => exact .nil
  | cons c text ih =>
    cases hc : isSeparator c with
    | false =>
      rw [List.filter_cons_of_pos (by simp [hc])]
      exact .keep c ih
    | true =>
      rw [List.filter_cons_of_neg (by simp [hc])]
      exact .insert hc ih

lemma spaced_iff (hkept : ∀ c ∈ kept, c ∈ alphabet) :
    Spaced kept text ↔ text.filter (fun c => !isSeparator c) = kept := by
  constructor
  · intro h
    induction h with
    | nil => rfl
    | keep c h ih =>
      obtain ⟨hc, hkept⟩ := List.forall_mem_cons.mp hkept
      rw [List.filter_cons_of_pos (by simp [isSeparator_of_mem hc]), ih hkept]
    | insert hc h ih => rw [List.filter_cons_of_neg (by simp [hc]), ih hkept]
  · rintro rfl
    exact spaced_filter text

lemma Spaced.not_mem (h : Spaced kept text) (hkept : ∀ c ∈ kept, c ∈ alphabet) {c : Char}
    (hsep : isSeparator c = false) (hc : c ∉ alphabet) : c ∉ text := by
  intro hmem
  have hfilter : c ∈ text.filter fun c => !isSeparator c :=
    List.mem_filter.mpr ⟨hmem, by rw [hsep]; rfl⟩
  rw [(spaced_iff hkept).mp h] at hfilter
  exact hc (hkept c hfilter)

lemma digits_of_mark {x : Char} (hx : x = 'x' ∨ x = 'X') (text : List Char) :
    digits ('0' :: x :: text) = text.filter fun c => !isSeparator c := by
  have hblank : Text.isBlank x = false := by
    obtain rfl | rfl := hx <;> decide
  have htrim : Text.trim ('0' :: x :: text) = '0' :: x :: Text.trimEnd text := by
    rw [Text.trim, List.dropWhile_cons_of_neg (by decide), trimEnd_cons (by decide),
      trimEnd_cons hblank]
  have hmark : dropMark ('0' :: x :: Text.trimEnd text) = Text.trimEnd text := by
    obtain rfl | rfl := hx <;> rfl
  rw [digits, htrim, hmark, filter_trimEnd]

lemma Typed.digits_eq (h : Typed kept text) (hkept : ∀ c ∈ kept, c ∈ alphabet) :
    digits text = kept := by
  obtain ⟨mark, hmark, spaced, h, rfl⟩ := h
  have hspaced := (spaced_iff hkept).mp h
  simp only [marks, List.mem_cons, List.not_mem_nil, or_false] at hmark
  obtain rfl | rfl | rfl := hmark
  · -- No digit is taken for a mark, since there is no x among digits and separators.
    have hx : 'x' ∉ spaced := h.not_mem hkept (by decide) (by decide)
    have hX : 'X' ∉ spaced := h.not_mem hkept (by decide) (by decide)
    change (dropMark (Text.trim spaced)).filter _ = kept
    rw [dropMark_of_not_mem (fun hmem => hx (mem_of_mem_trim hmem))
      (fun hmem => hX (mem_of_mem_trim hmem)), filter_trim, hspaced]
  · exact (digits_of_mark (.inl rfl) spaced).trans hspaced
  · exact (digits_of_mark (.inr rfl) spaced).trans hspaced

end Texts

/-! ## Pairs of digits -/

lemma readPairs_cons_cons {high low : UInt8} {h l : Nat} (hhigh : value? high = some h)
    (hlow : value? low = some l) (position : Nat) (rest : List UInt8) :
    readPairs position (high :: low :: rest) =
      (readPairs (position + 2) rest).map (UInt8.ofNat (16 * h + l) :: ·) := by
  rw [readPairs, hhigh, hlow]
  rfl

lemma exists_readPairs {text : List Char} (h : ∀ c ∈ text, c ∈ alphabet)
    (heven : text.length % 2 = 0) (position : Nat) :
    ∃ bytes, readPairs position (text.map code) = .ok bytes ∧ bytes.length = text.length / 2 := by
  induction text using List.twoStepInduction generalizing position with
  | nil => exact ⟨[], rfl, rfl⟩
  | singleton c => simp at heven
  | cons_cons high low rest ih _ =>
    obtain ⟨hhigh, hlow, hrest⟩ : high ∈ alphabet ∧ low ∈ alphabet ∧ ∀ c ∈ rest, c ∈ alphabet := by
      simpa using h
    obtain ⟨m, hm⟩ := exists_value?_of_mem hhigh
    obtain ⟨n, hn⟩ := exists_value?_of_mem hlow
    simp only [List.length_cons] at heven ⊢
    obtain ⟨bytes, hbytes, hlen⟩ := ih hrest (by omega) (position + 2)
    refine ⟨UInt8.ofNat (16 * m + n) :: bytes, ?_, ?_⟩
    · rw [List.map_cons, List.map_cons, readPairs_cons_cons hm hn, hbytes]
      rfl
    · rw [List.length_cons, hlen]
      omega

lemma readPairs_format_append (bytes : List UInt8) (upper : Bool) (rest : List Char)
    (position : Nat) :
    readPairs position ((format bytes upper ++ rest).map code) =
      (readPairs (position + 2 * bytes.length) (rest.map code)).map (bytes ++ ·) := by
  induction bytes generalizing position with
  | nil =>
    rw [List.length_nil, Nat.mul_zero, Nat.add_zero]
    exact (id_map (f := Except Fault) _).symm
  | cons byte bytes ih =>
    have hbyte := byte.toNat_lt
    have hvalue : UInt8.ofNat (16 * (byte.toNat / 16) + byte.toNat % 16) = byte := by
      rw [Nat.div_add_mod, UInt8.ofNat_toNat]
    have hposition : position + 2 * (byte :: bytes).length = position + 2 + 2 * bytes.length := by
      rw [List.length_cons]
      omega
    change readPairs position (code (digit upper (byte.toNat / 16)) ::
      code (digit upper (byte.toNat % 16)) :: (format bytes upper ++ rest).map code) = _
    rw [readPairs_cons_cons (value?_digit upper (by omega)) (value?_digit upper (by omega)), ih,
      hvalue, hposition]
    exact (comp_map (f := Except Fault) (bytes ++ ·) (byte :: ·) _).symm

/-- Printed bytes, typed with further digits, are read as these bytes and half as many as there are
further digits. -/
lemma exists_parse_of_typed {bytes : List UInt8} {upper : Bool} {further text : List Char}
    (hfurther : ∀ c ∈ further, c ∈ alphabet) (heven : further.length % 2 = 0)
    (h : Typed (format bytes upper ++ further) text) :
    ∃ rest, parse text = .ok (bytes ++ rest) ∧ rest.length = further.length / 2 := by
  have hall : ∀ c ∈ format bytes upper ++ further, c ∈ alphabet := by
    intro c hc
    obtain hc | hc := List.mem_append.mp hc
    · exact mem_alphabet_of_mem_format hc
    · exact hfurther c hc
  obtain ⟨rest, hrest, hlen⟩ := exists_readPairs hfurther heven (0 + 2 * bytes.length)
  have hcodes : ¬((format bytes upper ++ further).map code).length % 2 = 1 := by
    rw [List.length_map, List.length_append, length_format]
    omega
  refine ⟨rest, ?_, hlen⟩
  rw [parse, h.digits_eq hall, encode_eq_map_code hall, if_neg hcodes, readPairs_format_append,
    hrest]
  rfl

end Hex

end Fieldbus
