import Fieldbus.Proofs.HexText
import Fieldbus.Proofs.Utf8Text

/-!
# Which texts are read as bytes

A text is read exactly if it is blanks, perhaps a mark, and an even number of digits with separators
anywhere between them. Every other text is refused by its codes: an odd number of them first, and
then the first code that is no digit's, with its place among them.
-/

namespace Fieldbus.Hex

/-- Blanks, perhaps a mark, and digits with separators anywhere between them. -/
def Entered (typed text : List Char) : Prop :=
  ∃ blanks rest, (∀ c ∈ blanks, Text.isBlank c = true) ∧ Typed typed rest ∧ text = blanks ++ rest

def codes : List UInt8 := alphabet.map code

/-- At index `i` stands the first code that is no digit's. -/
def FirstFault (text : List UInt8) (i : Nat) (bad : UInt8) : Prop :=
  text[i]? = some bad ∧ bad ∉ codes ∧ ∀ j < i, ∀ k, text[j]? = some k → k ∈ codes

/-! ## Single codes -/

lemma mem_codes_of_value? {k : UInt8} {n : Nat} (h : value? k = some n) : k ∈ codes := by
  have hnumerals : ∀ i : Fin 10, UInt8.ofNat (48 + i) ∈ codes := by decide
  have hsmall : ∀ i : Fin 6, UInt8.ofNat (97 + i) ∈ codes := by decide
  have hlarge : ∀ i : Fin 6, UInt8.ofNat (65 + i) ∈ codes := by decide
  rw [← k.ofNat_toNat]
  simp only [value?, UInt8.le_iff_toNat_le, UInt8.reduceToNat] at h
  split_ifs at h with h₁ h₂ h₃
  · simpa [Nat.add_sub_cancel' h₁.1] using hnumerals ⟨k.toNat - 48, by omega⟩
  · simpa [Nat.add_sub_cancel' h₂.1] using hsmall ⟨k.toNat - 97, by omega⟩
  · simpa [Nat.add_sub_cancel' h₃.1] using hlarge ⟨k.toNat - 65, by omega⟩

lemma mem_codes_iff {k : UInt8} : k ∈ codes ↔ ∃ n, value? k = some n := by
  constructor
  · intro h
    obtain ⟨c, hc, rfl⟩ := List.mem_map.mp h
    exact exists_value?_of_mem hc
  · rintro ⟨n, h⟩
    exact mem_codes_of_value? h

lemma value?_eq_none_iff {k : UInt8} : value? k = none ↔ k ∉ codes := by
  rw [mem_codes_iff, not_exists, Option.eq_none_iff_forall_ne_some]

lemma value?_lt {k : UInt8} {n : Nat} (h : value? k = some n) : n < 16 := by
  simp only [value?, UInt8.le_iff_toNat_le, UInt8.reduceToNat] at h
  split_ifs at h <;> simp only [Option.some.injEq] at h <;> omega

lemma digit_value? {c : Char} (hc : c ∈ alphabet) {n : Nat} (h : value? (code c) = some n) :
    digit false n = c.toLower := by
  have hall : (alphabet.all fun c => (value? (code c)).map (digit false) = some c.toLower) =
      true := by decide
  have hdigit := of_decide_eq_true (List.all_eq_true.mp hall c hc)
  rw [h] at hdigit
  exact Option.some.inj hdigit

/-- Only a digit has nothing but codes of digits in its UTF-8. -/
lemma mem_alphabet_of_codes {c : Char} (h : ∀ k ∈ String.utf8EncodeChar c, k ∈ codes) :
    c ∈ alphabet := by
  have hall : codes.all (fun k => k < 0x80 ∧ Char.ofNat k.toNat ∈ alphabet) = true := by decide
  have hcode (k : UInt8) (hk : k ∈ codes) : k < 0x80 ∧ Char.ofNat k.toNat ∈ alphabet :=
    of_decide_eq_true (List.all_eq_true.mp hall k hk)
  have hhigh {n : Nat} (hlo : 0x80 ≤ n) (hhi : n < 256) : UInt8.ofNat n ∉ codes := by
    intro hn
    have hlt := UInt8.lt_iff_toNat_lt.mp (hcode _ hn).1
    rw [Utf8.toNat_byte hhi] at hlt
    change n < 0x80 at hlt
    omega
  unfold String.utf8EncodeChar at h
  dsimp only at h
  split_ifs at h with h₁ h₂ h₃
  · have hc := (hcode _ (h _ List.mem_cons_self)).2
    rwa [Utf8.toNat_byte (by omega), show Char.ofNat c.val.toNat = c from c.ofNat_toNat] at hc
  -- The first byte of a longer form has its high bit set.
  all_goals exact absurd (h _ List.mem_cons_self) (hhigh (by omega) (by omega))

lemma mem_alphabet_of_encode {text : List Char} (h : ∀ k ∈ Utf8.encode text, k ∈ codes) :
    ∀ c ∈ text, c ∈ alphabet := by
  intro c hc
  apply mem_alphabet_of_codes
  intro k hk
  exact h k (List.mem_flatMap.mpr ⟨c, hc, hk⟩)

/-! ## Pairs of codes -/

/-- Everything that reading an even number of codes can do. -/
lemma readPairs_cases {text : List UInt8} (heven : text.length % 2 = 0) (position : Nat) :
    ((∀ k ∈ text, k ∈ codes) ∧ ∃ bytes, readPairs position text = .ok bytes) ∨
      ∃ i bad, FirstFault text i bad ∧ readPairs position text =
        .error (.invalidCharacter (Char.ofNat bad.toNat) (position + i)) := by
  induction text using List.twoStepInduction generalizing position with
  | nil => exact .inl ⟨by simp, [], rfl⟩
  | singleton k => simp at heven
  | cons_cons high low rest ih _ =>
    cases hhigh : value? high with
    | none =>
      refine .inr ⟨0, high, ⟨rfl, value?_eq_none_iff.mp hhigh, by simp⟩, ?_⟩
      simp [readPairs, hhigh]
    | some h =>
      have hmem := mem_codes_iff.mpr ⟨h, hhigh⟩
      cases hlow : value? low with
      | none =>
        refine .inr ⟨1, low, ⟨rfl, value?_eq_none_iff.mp hlow, ?_⟩, ?_⟩
        · intro j hj k hk
          obtain rfl : j = 0 := by omega
          exact Option.some.inj hk ▸ hmem
        · simp [readPairs, hhigh, hlow]
      | some l =>
        have hmem' := mem_codes_iff.mpr ⟨l, hlow⟩
        simp only [List.length_cons] at heven
        rw [readPairs_cons_cons hhigh hlow]
        obtain ⟨hall, bytes, hbytes⟩ | ⟨i, bad, ⟨hbad, hfault, hbefore⟩, hread⟩ :=
          ih (by omega) (position + 2)
        · exact .inl ⟨by simpa [hmem, hmem'] using hall, _, by rw [hbytes]; rfl⟩
        · refine .inr ⟨i + 2, bad, ⟨hbad, hfault, ?_⟩, ?_⟩
          · intro j hj k hk
            rcases j with _ | _ | j
            · exact Option.some.inj hk ▸ hmem
            · exact Option.some.inj hk ▸ hmem'
            · exact hbefore j (by omega) k hk
          · rw [hread, Nat.add_assoc, Nat.add_comm 2 i]
            rfl

lemma FirstFault.unique {text : List UInt8} {i j : Nat} {bad other : UInt8}
    (h : FirstFault text i bad) (h' : FirstFault text j other) : i = j ∧ bad = other := by
  obtain ⟨hbad, hfault, hbefore⟩ := h
  obtain ⟨hbad', hfault', hbefore'⟩ := h'
  obtain hlt | rfl | hgt := Nat.lt_trichotomy i j
  · exact absurd (hbefore' i hlt bad hbad) hfault
  · exact ⟨rfl, Option.some.inj (hbad.symm.trans hbad')⟩
  · exact absurd (hbefore j hgt other hbad') hfault'

lemma format_of_readPairs {typed : List Char} (h : ∀ c ∈ typed, c ∈ alphabet) {position : Nat}
    {bytes : List UInt8} (hread : readPairs position (typed.map code) = .ok bytes) :
    format bytes false = typed.map Char.toLower := by
  induction typed using List.twoStepInduction generalizing position bytes with
  | nil => cases hread; rfl
  | singleton c => simp [readPairs] at hread
  | cons_cons high low rest ih _ =>
    obtain ⟨hhigh, hlow, hrest⟩ : high ∈ alphabet ∧ low ∈ alphabet ∧ ∀ c ∈ rest, c ∈ alphabet := by
      simpa using h
    obtain ⟨m, hm⟩ := exists_value?_of_mem hhigh
    obtain ⟨n, hn⟩ := exists_value?_of_mem hlow
    rw [List.map_cons, List.map_cons, readPairs_cons_cons hm hn] at hread
    cases htail : readPairs (position + 2) (rest.map code) with
    | error fault => simp [htail, Except.map] at hread
    | ok tail =>
      rw [htail] at hread
      obtain rfl := Except.ok.inj hread
      have hpair : pair false (UInt8.ofNat (16 * m + n)) = [high.toLower, low.toLower] := by
        have hm' := value?_lt hm
        have hn' := value?_lt hn
        rw [← digit_value? hhigh hm, ← digit_value? hlow hn, pair, Utf8.toNat_byte (by omega),
          show (16 * m + n) / 16 = m by omega, show (16 * m + n) % 16 = n by omega]
      rw [format, List.flatMap_cons, hpair, ← format, ih hrest htail]
      rfl

lemma readPairs_format (bytes : List UInt8) (upper : Bool) (position : Nat) :
    readPairs position ((format bytes upper).map code) = .ok bytes := by
  have h := readPairs_format_append bytes upper [] position
  simpa [readPairs, Except.map] using h

lemma format_injective {bytes other : List UInt8} {upper : Bool}
    (h : format bytes upper = format other upper) : bytes = other := by
  have hread := readPairs_format bytes upper 0
  rw [h, readPairs_format] at hread
  exact (Except.ok.inj hread).symm

/-! ## Texts -/

lemma trimEnd_prefix (text : List Char) : Text.trimEnd text <+: text := by
  rw [← List.reverse_suffix, Text.trimEnd, List.reverse_reverse]
  exact List.dropWhile_suffix _

lemma digits_append {blanks : List Char} (h : ∀ c ∈ blanks, Text.isBlank c = true)
    (rest : List Char) : digits (blanks ++ rest) = digits rest := by
  rw [digits, digits, Text.trim, Text.trim, List.dropWhile_append_of_pos h]

lemma Entered.digits_eq {typed text : List Char} (h : Entered typed text)
    (htyped : ∀ c ∈ typed, c ∈ alphabet) : digits text = typed := by
  obtain ⟨blanks, rest, hblanks, hrest, rfl⟩ := h
  rw [digits_append hblanks, hrest.digits_eq htyped]

lemma digits_of_unmarked {text : List Char}
    (h : ∀ x rest, x = 'x' ∨ x = 'X' → text.dropWhile Text.isBlank ≠ '0' :: x :: rest) :
    digits text = (text.dropWhile Text.isBlank).filter fun c => !isSeparator c := by
  have hmark : dropMark (Text.trim text) = Text.trim text := by
    unfold dropMark
    have hstart := trimEnd_prefix (text.dropWhile Text.isBlank)
    split
    · next rest heq =>
      rw [← Text.trim, heq] at hstart
      obtain ⟨tail, htail⟩ := hstart
      exact absurd htail.symm (h 'x' _ (.inl rfl))
    · next rest heq =>
      rw [← Text.trim, heq] at hstart
      obtain ⟨tail, htail⟩ := hstart
      exact absurd htail.symm (h 'X' _ (.inr rfl))
    · rfl
  rw [digits, hmark, Text.trim, filter_trimEnd]

lemma entered_digits (text : List Char) : Entered (digits text) text := by
  refine ⟨text.takeWhile Text.isBlank, text.dropWhile Text.isBlank, ?_, ?_,
    List.takeWhile_append_dropWhile.symm⟩
  · exact List.all_eq_true.mp List.all_takeWhile
  · by_cases h : ∃ x rest, (x = 'x' ∨ x = 'X') ∧ text.dropWhile Text.isBlank = '0' :: x :: rest
    · obtain ⟨x, rest, hx, hrest⟩ := h
      have hmark : ['0', x] ∈ marks := by
        obtain rfl | rfl := hx <;> decide
      have hdigits : digits text = rest.filter fun c => !isSeparator c := by
        conv_lhs => rw [← List.takeWhile_append_dropWhile (p := Text.isBlank) (l := text)]
        rw [digits_append (List.all_eq_true.mp List.all_takeWhile), hrest, digits_of_mark hx]
      rw [hrest, hdigits]
      exact ⟨['0', x], hmark, rest, spaced_filter rest, rfl⟩
    · rw [digits_of_unmarked fun x rest hx heq => h ⟨x, rest, hx, heq⟩]
      exact ⟨[], by decide, _, spaced_filter _, rfl⟩

lemma spaced_self (text : List Char) : Spaced text text := by
  induction text with
  | nil => exact .nil
  | cons c text ih => exact .keep c ih

/-! ## What the reader answers -/

variable {text : List Char}

lemma parse_eq_ok_iff {bytes : List UInt8} :
    parse text = .ok bytes ↔ ∃ typed, Entered typed text ∧ (∀ c ∈ typed, c ∈ alphabet) ∧
      typed.length % 2 = 0 ∧ format bytes false = typed.map Char.toLower := by
  constructor
  · intro h
    unfold parse at h
    dsimp only at h
    split_ifs at h with hodd
    have heven : (Utf8.encode (digits text)).length % 2 = 0 := by omega
    obtain ⟨hcodes, -⟩ | ⟨i, bad, -, hread⟩ := readPairs_cases heven 0
    · have htyped := mem_alphabet_of_encode hcodes
      rw [encode_eq_map_code htyped] at h hodd
      rw [List.length_map] at hodd
      exact ⟨digits text, entered_digits text, htyped, by omega, format_of_readPairs htyped h⟩
    · rw [hread] at h
      nomatch h
  · rintro ⟨typed, htext, htyped, heven, hformat⟩
    obtain ⟨read, hread, -⟩ := exists_readPairs htyped heven 0
    have hparse : parse text = .ok read := by
      rw [parse, htext.digits_eq htyped, encode_eq_map_code htyped, List.length_map,
        if_neg (by omega), hread]
    have hsame : format read false = format bytes false := by
      rw [format_of_readPairs htyped hread, hformat]
    rw [hparse, format_injective hsame]

lemma parse_eq_oddLength_iff :
    parse text = .error .oddLength ↔ (Utf8.encode (digits text)).length % 2 = 1 := by
  by_cases hodd : (Utf8.encode (digits text)).length % 2 = 1
  · simp [parse, hodd]
  · have heven : (Utf8.encode (digits text)).length % 2 = 0 := by omega
    obtain ⟨-, bytes, hread⟩ | ⟨i, bad, -, hread⟩ := readPairs_cases heven 0
    · simp [parse, hodd, hread]
    · simp [parse, hodd, hread]

lemma parse_eq_invalidCharacter_iff {c : Char} {i : Nat} :
    parse text = .error (.invalidCharacter c i) ↔
      (Utf8.encode (digits text)).length % 2 = 0 ∧
        ∃ bad, FirstFault (Utf8.encode (digits text)) i bad ∧ c = Char.ofNat bad.toNat := by
  by_cases hodd : (Utf8.encode (digits text)).length % 2 = 1
  · simp [parse, hodd]
  · have heven : (Utf8.encode (digits text)).length % 2 = 0 := by omega
    obtain ⟨hcodes, bytes, hread⟩ | ⟨j, bad, hfault, hread⟩ := readPairs_cases heven 0
    · simp only [parse, hodd, hread, if_false, reduceCtorEq, false_iff]
      rintro ⟨-, bad, ⟨hbad, hnot, -⟩, -⟩
      exact hnot (hcodes bad (List.mem_of_getElem? hbad))
    · simp only [parse, hodd, hread, if_false, Nat.zero_add, Except.error.injEq,
        Fault.invalidCharacter.injEq]
      constructor
      · rintro ⟨rfl, rfl⟩
        exact ⟨by omega, bad, hfault, rfl⟩
      · rintro ⟨-, other, hother, rfl⟩
        obtain ⟨rfl, rfl⟩ := hfault.unique hother
        exact ⟨rfl, rfl⟩

lemma parse_format (bytes : List UInt8) (upper : Bool) :
    parse (format bytes upper) = .ok bytes := by
  have hall : ∀ c ∈ format bytes upper, c ∈ alphabet := fun _ => mem_alphabet_of_mem_format
  have htext : Entered (format bytes upper) (format bytes upper) :=
    ⟨[], _, by simp, ⟨[], by decide, _, spaced_self _, rfl⟩, rfl⟩
  rw [parse, htext.digits_eq hall, encode_eq_map_code hall, List.length_map, length_format,
    if_neg (by omega), readPairs_format]

/-- A text is read exactly if it is blanks, perhaps a mark, and an even number of digits with
separators anywhere between them, and the bytes are then printed with these digits in lower case. Of
what is left of any other text, an odd number of codes is refused first, and otherwise the first
code that is no digit's. Printed bytes are always read back. -/
theorem parse_accepts_exactly (text : List Char) :
    (∀ bytes, parse text = .ok bytes ↔ ∃ typed, Entered typed text ∧ (∀ c ∈ typed, c ∈ alphabet) ∧
      typed.length % 2 = 0 ∧ format bytes false = typed.map Char.toLower) ∧
    (parse text = .error .oddLength ↔ (Utf8.encode (digits text)).length % 2 = 1) ∧
    (∀ c i, parse text = .error (.invalidCharacter c i) ↔
      (Utf8.encode (digits text)).length % 2 = 0 ∧
        ∃ bad, FirstFault (Utf8.encode (digits text)) i bad ∧ c = Char.ofNat bad.toNat) ∧
    ∀ bytes upper, parse (format bytes upper) = .ok bytes :=
  ⟨fun _ => parse_eq_ok_iff, parse_eq_oddLength_iff, fun _ _ => parse_eq_invalidCharacter_iff,
    parse_format⟩

/-- Digits of both cases behind a mark, a separator in front of a mark, which is then none, and a
letter of two codes. -/
theorem parse_accepts_exactly_separated_mark :
    (∃ typed, Entered typed "\t0X0a:-Ff ".toList ∧ (∀ c ∈ typed, c ∈ alphabet) ∧
      typed.length % 2 = 0 ∧ format [0x0A, 0xFF] false = typed.map Char.toLower) ∧
    parse ":0x12".toList = .error (.invalidCharacter 'x' 1) ∧
    parse "é1".toList = .error .oddLength := by
  have hfault : FirstFault (Utf8.encode (digits ":0x12".toList)) 1 120 := by
    refine ⟨by decide, by decide, ?_⟩
    intro j hj k hk
    obtain rfl : j = 0 := by omega
    obtain rfl : 48 = k := Option.some.inj hk
    decide
  obtain ⟨haccept, -⟩ := parse_accepts_exactly "\t0X0a:-Ff ".toList
  obtain ⟨-, -, hrefuse, -⟩ := parse_accepts_exactly ":0x12".toList
  obtain ⟨-, hodd, -⟩ := parse_accepts_exactly "é1".toList
  exact ⟨(haccept _).mp rfl, (hrefuse _ _).mpr ⟨by decide, 120, hfault, rfl⟩, hodd.mpr (by decide)⟩

end Fieldbus.Hex
