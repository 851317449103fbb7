import Fieldbus.Binary32.Style
import Fieldbus.Text.Basic
import Fieldbus.Binary32.Reading
import Mathlib.Data.List.TakeWhile
import Mathlib.Tactic.Lemma
import Mathlib.Tactic.SplitIfs

/-!
# Signs, digits and integers in text

What the readers of numbers share: a sign in front, digits that stand for a number, and the split of
a text at the end of its digits. Integers are read from their own text as long as the range of the
reader holds them. No number has blanks in its text that could be trimmed.
-/

namespace Fieldbus

/-! ## Signs -/

namespace Text

def signed (negative : Bool) (n : Nat) : Int := if negative then -n else n

/-- What may stand in front of a number, and whether it makes the number negative. -/
inductive Sign : List Char → Bool → Prop where
  | none : Sign [] false
  | plus : Sign ['+'] false
  | minus : Sign ['-'] true

lemma exists_sign (text : List Char) :
    ∃ sign negative body, Sign sign negative ∧ text = sign ++ body ∧
      (sign = [] → body.head? ≠ some '+' ∧ body.head? ≠ some '-') := by
  by_cases hplus : text.head? = some '+'
  · obtain ⟨body, rfl⟩ := List.head?_eq_some_iff.mp hplus
    exact ⟨['+'], false, body, .plus, rfl, by simp⟩
  by_cases hminus : text.head? = some '-'
  · obtain ⟨body, rfl⟩ := List.head?_eq_some_iff.mp hminus
    exact ⟨['-'], true, body, .minus, rfl, by simp⟩
  · exact ⟨[], false, text, .none, rfl, fun _ => ⟨hplus, hminus⟩⟩

lemma head?_ne_sign {digits : List Char} (h : ∀ c ∈ digits, c.isDigit = true) :
    digits.head? ≠ some '+' ∧ digits.head? ≠ some '-' := by
  constructor
  all_goals
    intro heq
    simpa using h _ (List.mem_of_head? heq)

end Text

namespace Binary32

/-! ## Digits -/

lemma digitsValue_eq (digits : List Char) : digitsValue digits = Nat.ofDigitChars 10 digits 0 := by
  have hstep : (fun (acc : Nat) (c : Char) => acc * 10 + (c.toNat - 48)) =
      fun acc c => 10 * acc + (c.toNat - '0'.toNat) := by
    funext acc c
    rw [Nat.mul_comm]
    rfl
  rw [digitsValue, hstep, Nat.ofDigitChars_eq_foldl]

lemma digitsValue_toDigits (n : Nat) : digitsValue (Nat.toDigits 10 n) = n := by
  rw [digitsValue_eq, Nat.ofDigitChars_ten_toDigits]

lemma digitsValue_append (left right : List Char) :
    digitsValue (left ++ right) =
      digitsValue left * Nat.pow 10 right.length + digitsValue right := by
  rw [digitsValue_eq, digitsValue_eq, digitsValue_eq, Nat.ofDigitChars_append,
    Nat.ofDigitChars_eq_ofDigitChars_zero, Nat.mul_comm]
  rfl

lemma digitsValue_zeros (n : Nat) : digitsValue (List.replicate n '0') = 0 := by
  rw [digitsValue_eq, Nat.ofDigitChars_replicate_zero, Nat.mul_zero]

lemma isDigit_of_mem_toDigits {n : Nat} {c : Char} (h : c ∈ Nat.toDigits 10 n) :
    c.isDigit = true := Nat.isDigit_of_mem_toDigits (by decide) (by decide) h

lemma isDigit_of_mem_zeros {n : Nat} {c : Char} (h : c ∈ List.replicate n '0') :
    c.isDigit = true := by
  rw [List.eq_of_mem_replicate h]
  rfl

/-! ## Reading digits -/

lemma nearest_zero (den : Nat) : nearest 0 den = 0 := by
  have hexcess : excess 0 den = 0 := by
    rw [excess, Nat.zero_div]
    rfl
  have hdiv (n : Nat) : divNearest 0 n = 0 := by
    simp [divNearest]
    omega
  simp only [nearest, Nat.zero_mul, hexcess, hdiv]
  rfl

section Decimals

variable {whole fraction rest : List Char}

lemma span_digits (hwhole : ∀ c ∈ whole, c.isDigit = true)
    (hrest : ∀ c ∈ rest.head?, c.isDigit = false) :
    (whole ++ rest).takeWhile Char.isDigit = whole ∧
      (whole ++ rest).dropWhile Char.isDigit = rest := by
  rw [List.takeWhile_append_of_pos hwhole, List.dropWhile_append_of_pos hwhole]
  cases rest with
  | nil => simp
  | cons c rest =>
    have hc : c.isDigit = false := hrest c rfl
    simp [hc]

lemma readDecimal?_whole (hwhole : ∀ c ∈ whole, c.isDigit = true)
    (hrest : ∀ c ∈ rest.head?, c.isDigit = false) (hpoint : rest.head? ≠ some '.') :
    readDecimal? (whole ++ rest) = if whole.isEmpty then none
      else (readExponent? rest).map fun e => nearestDecimal (digitsValue whole) whole.length e := by
  obtain ⟨htake, hdrop⟩ := span_digits hwhole hrest
  simp only [readDecimal?, htake, hdrop]
  split
  · exact absurd rfl hpoint
  · simp

lemma readDecimal?_point (hwhole : ∀ c ∈ whole, c.isDigit = true)
    (hfraction : ∀ c ∈ fraction, c.isDigit = true)
    (hrest : ∀ c ∈ rest.head?, c.isDigit = false) :
    readDecimal? (whole ++ '.' :: (fraction ++ rest)) =
      if (whole ++ fraction).isEmpty then none
      else (readExponent? rest).map fun e => nearestDecimal (digitsValue (whole ++ fraction))
        (whole ++ fraction).length (e - fraction.length) := by
  have hdot : ∀ c ∈ ('.' :: (fraction ++ rest)).head?, c.isDigit = false := by simp
  obtain ⟨htake, hdrop⟩ := span_digits hwhole hdot
  obtain ⟨htake', hdrop'⟩ := span_digits hfraction hrest
  simp only [readDecimal?, htake, hdrop, htake', hdrop']

end Decimals

/-! ## Floats -/

def numerals : List Char := ".0123456789".toList

lemma mem_numerals_of_isDigit {c : Char} (h : c.isDigit = true) : c ∈ numerals := by
  have hall : ∀ n : Fin 10, Char.ofNat (48 + n.val) ∈ numerals := by decide
  obtain ⟨hlo, hhi⟩ : 48 ≤ c.toNat ∧ c.toNat ≤ 57 := Char.isDigit_iff_toNat.mp h
  have hn := hall ⟨c.toNat - 48, by omega⟩
  rwa [Nat.add_sub_cancel' hlo, Char.ofNat_toNat] at hn

lemma ne_sign_of_mem_numerals {c : Char} (h : c ∈ numerals) : c ≠ '-' ∧ c ≠ '+' := by
  have hall : numerals.all (fun c => c ≠ '-' ∧ c ≠ '+') = true := by decide
  exact of_decide_eq_true (List.all_eq_true.mp hall c h)

lemma ofParts_parts (x : Binary32) : ofParts x.isNegative x.magnitude = x := by
  have hlt := x.bits.toNat_lt
  have hbits : (if x.isNegative then signBit + x.magnitude else x.magnitude) = x.bits.toNat := by
    unfold isNegative magnitude signBit
    by_cases hnegative : 0x80000000 ≤ x.bits.toNat
    · rw [if_pos (decide_eq_true hnegative)]
      omega
    · rw [if_neg (by simpa using hnegative)]
      omega
  rw [ofParts, hbits, UInt32.ofNat_toNat]

lemma readMagnitude?_of_mem_numerals {c : Char} (hc : c ∈ numerals) (rest : List Char) :
    readMagnitude? (c :: rest) = readDecimal? (c :: rest) := by
  have hwords : numerals.all (fun c => c.toLower ≠ 'i' ∧ c.toLower ≠ 'n') = true := by decide
  obtain ⟨hi, hn⟩ := of_decide_eq_true (List.all_eq_true.mp hwords c hc)
  unfold Binary32.readMagnitude?
  simp only [List.map_cons]
  rw [if_neg, if_neg]
  · exact fun heq => hn (List.cons.inj heq).1
  · rintro (heq | heq)
    · exact hi (List.cons.inj heq).1
    · exact hi (List.cons.inj heq).1

lemma read_sign {sign body : List Char} {negative : Bool}
    (hsign : Text.Sign sign negative) (hne : body ≠ [])
    (hhead : sign = [] → body.head? ≠ some '+' ∧ body.head? ≠ some '-') :
    read (sign ++ body) =
      (readMagnitude? body).elim (.error .invalid) fun m => .ok (ofParts negative m) := by
  obtain ⟨c, rest, rfl⟩ := List.exists_cons_of_ne_nil hne
  cases hsign with
  | plus =>
    simp only [read, List.singleton_append, List.isEmpty_cons, Bool.false_eq_true, if_false]
    cases readMagnitude? (c :: rest) <;> rfl
  | minus =>
    simp only [read, List.singleton_append, List.isEmpty_cons, Bool.false_eq_true, if_false]
    cases readMagnitude? (c :: rest) <;> rfl
  | none =>
    have h := hhead rfl
    simp only [List.head?_cons, ne_eq, Option.some.injEq] at h
    rw [List.nil_append]
    unfold read
    split
    next _ _ hsplit =>
      split at hsplit
      · next heq => exact absurd (List.cons.inj heq).1 h.2
      · next heq => exact absurd (List.cons.inj heq).1 h.1
      · obtain ⟨rfl, rfl⟩ := Prod.mk.inj hsplit
        cases readMagnitude? (c :: rest) <;> simp

/-- The characters of numbers, and of the words for those that are not finite. -/
def marks : List Char := "+-Naefin".toList ++ numerals

lemma subset_marks {digits : List Char} (h : ∀ c ∈ digits, c.isDigit = true) : digits ⊆ marks :=
  fun c hc => List.mem_append_right _ (mem_numerals_of_isDigit (h c hc))

section Layout

variable (style : Style) {digits : List Char}

lemma layPositional_subset (h : digits ⊆ marks) (places : Int) :
    style.layPositional digits places ⊆ marks := by
  have hpoint : ['0', '.'] ⊆ marks := by decide
  have hzeros (n : Nat) : List.replicate n '0' ⊆ marks :=
    subset_marks fun _ => isDigit_of_mem_zeros
  unfold Style.layPositional
  split_ifs
  · exact List.append_subset.mpr ⟨List.append_subset.mpr ⟨hpoint, hzeros _⟩, h⟩
  · refine List.append_subset.mpr ⟨List.Subset.trans (List.take_subset _ _) h, ?_⟩
    exact List.cons_subset.mpr ⟨by decide, List.Subset.trans (List.drop_subset _ _) h⟩
  · exact List.append_subset.mpr ⟨List.append_subset.mpr ⟨h, hzeros _⟩, by decide⟩
  · exact List.append_subset.mpr ⟨h, hzeros _⟩

lemma layExponent_subset (e : Int) : style.layExponent e ⊆ marks := by
  have hnumber : Nat.toDigits 10 e.natAbs ⊆ marks := subset_marks fun _ => isDigit_of_mem_toDigits
  unfold Style.layExponent
  dsimp only
  split_ifs
  · exact List.cons_subset.mpr ⟨by decide, hnumber⟩
  · exact List.cons_subset.mpr ⟨by decide, hnumber⟩
  · exact hnumber

lemma layScientific_subset (h : digits ⊆ marks) (e : Int) :
    style.layScientific digits e ⊆ marks := by
  have hfirst : digits.take 1 ⊆ marks := List.Subset.trans (List.take_subset _ _) h
  have hfraction : digits.drop 1 ⊆ marks := List.Subset.trans (List.drop_subset _ _) h
  have hexponent : 'e' :: style.layExponent e ⊆ marks :=
    List.cons_subset.mpr ⟨by decide, layExponent_subset style e⟩
  unfold Style.layScientific
  refine List.append_subset.mpr ⟨List.append_subset.mpr ⟨hfirst, ?_⟩, hexponent⟩
  split_ifs
  · exact List.nil_subset _
  · exact List.cons_subset.mpr ⟨by decide, hfraction⟩

lemma text_subset_marks (x : Binary32) : x.text style ⊆ marks := by
  have hdecimal (d : Decimal) : style.layDecimal d ⊆ marks := by
    have hdigits : Nat.toDigits 10 d.digits ⊆ marks :=
      subset_marks fun _ => isDigit_of_mem_toDigits
    unfold Style.layDecimal
    dsimp only
    split_ifs
    · exact layPositional_subset style hdigits _
    · exact layScientific_subset style hdigits _
  have hmagnitude (magnitude : Nat) : style.layMagnitude magnitude ⊆ marks := by
    unfold Style.layMagnitude
    split_ifs
    · exact hdecimal _
    · exact hdecimal _
    · decide
  unfold text
  split_ifs
  · decide
  · exact List.cons_subset.mpr ⟨by decide, hmagnitude _⟩
  · exact hmagnitude _

end Layout

end Binary32

/-! ## Integers -/

namespace Text

/-- The number that digits stand for after a number that was read before them. -/
def digitsAfter (n : Nat) (digits : List Char) : Nat :=
  digits.foldl (fun acc c => acc * 10 + (c.toNat - 48)) n

lemma le_digitsAfter (n : Nat) (digits : List Char) : n ≤ digitsAfter n digits := by
  induction digits generalizing n with
  | nil => exact Nat.le_refl n
  | cons c digits ih =>
    have h : n * 10 + (c.toNat - 48) ≤ digitsAfter n (c :: digits) := ih _
    omega

/-- A decimal integer of any size: perhaps a sign, and digits. -/
def Numeral (text : List Char) (z : Int) : Prop :=
  ∃ sign negative digits, Sign sign negative ∧ digits ≠ [] ∧ (∀ c ∈ digits, c.isDigit = true) ∧
    text = sign ++ digits ∧ z = signed negative (Nat.ofDigitChars 10 digits 0)

variable {lo hi : Int}

/-- Digits are appended away from zero, so that a number that has left the range stays outside. -/
lemma readDigits_eq (hlo : lo ≤ 0) (hhi : 0 ≤ hi) (negative : Bool) {digits : List Char}
    (hdigits : ∀ c ∈ digits, c.isDigit = true) (n : Nat) (h₁ : lo ≤ signed negative n)
    (h₂ : signed negative n ≤ hi) :
    readDigits lo hi negative (signed negative n) digits =
      if hi < signed negative (digitsAfter n digits) then .error .tooLarge
      else if signed negative (digitsAfter n digits) < lo then .error .tooSmall
      else .ok (signed negative (digitsAfter n digits)) := by
  induction digits generalizing n with
  | nil =>
    change _ = if hi < signed negative n then _ else if signed negative n < lo then _ else _
    rw [if_neg (by omega), if_neg (by omega)]
    rfl
  | cons c digits ih =>
    obtain ⟨hc, hdigits⟩ := List.forall_mem_cons.mp hdigits
    have hdigit : digit? c = some (c.toNat - 48) := if_pos hc
    have hnext : (if negative then signed negative n * 10 - (c.toNat - 48 : Nat)
        else signed negative n * 10 + (c.toNat - 48 : Nat)) =
        signed negative (n * 10 + (c.toNat - 48)) := by
      cases negative with
      | false => simp [signed]
      | true =>
        simp only [signed, if_true]
        omega
    have hle : n * 10 + (c.toNat - 48) ≤ digitsAfter n (c :: digits) := le_digitsAfter _ digits
    have hlarge (h : hi < signed negative (n * 10 + (c.toNat - 48))) :
        hi < signed negative (digitsAfter n (c :: digits)) := by
      cases negative <;> simp [signed] at h ⊢ <;> omega
    have hsmall (h : signed negative (n * 10 + (c.toNat - 48)) < lo) :
        signed negative (digitsAfter n (c :: digits)) < lo ∧
          ¬hi < signed negative (digitsAfter n (c :: digits)) := by
      cases negative <;> simp [signed] at h ⊢ <;> omega
    rw [readDigits, hdigit]
    simp only [hnext]
    by_cases h : hi < signed negative (n * 10 + (c.toNat - 48))
    · rw [if_pos h, if_pos (hlarge h)]
    by_cases h' : signed negative (n * 10 + (c.toNat - 48)) < lo
    · rw [if_neg h, if_pos h', if_neg (hsmall h').2, if_pos (hsmall h').1]
    · rw [if_neg h, if_neg h']
      exact ih hdigits _ (by omega) (by omega)

lemma isDigit_of_readDigits {negative : Bool} {acc n : Int} {digits : List Char}
    (h : readDigits lo hi negative acc digits = .ok n) : ∀ c ∈ digits, c.isDigit = true := by
  induction digits generalizing acc with
  | nil => simp
  | cons c digits ih =>
    unfold readDigits digit? at h
    by_cases hc : c.isDigit = true
    · simp only [hc, if_true] at h
      split_ifs at h <;> exact List.forall_mem_cons.mpr ⟨hc, ih h⟩
    · simp [hc] at h

lemma readInteger_unsigned {c : Char} (hc : c ≠ '+' ∧ c ≠ '-') (rest : List Char) :
    readInteger lo hi (c :: rest) = readDigits lo hi false 0 (c :: rest) := by
  unfold readInteger
  split
  · next heq => nomatch heq
  · next heq => exact absurd (List.cons.inj heq).1 hc.1
  · next heq => exact absurd (List.cons.inj heq).1 hc.2
  · next heq => exact absurd (List.cons.inj heq).1 hc.1
  · next heq => exact absurd (List.cons.inj heq).1 hc.2
  · rfl

lemma readInteger_sign (hlo : lo < 0) {sign digits : List Char} {negative : Bool}
    (hsign : Sign sign negative) (hne : digits ≠ [])
    (hhead : sign = [] → digits.head? ≠ some '+' ∧ digits.head? ≠ some '-') :
    readInteger lo hi (sign ++ digits) = readDigits lo hi negative 0 digits := by
  obtain ⟨c, rest, rfl⟩ := List.exists_cons_of_ne_nil hne
  cases hsign with
  | none =>
    have h := hhead rfl
    simp only [List.head?_cons, ne_eq, Option.some.injEq] at h
    exact readInteger_unsigned h rest
  | plus => rfl
  | minus =>
    change (if lo < 0 then readDigits lo hi true 0 (c :: rest) else _) = _
    rw [if_pos hlo]

lemma readInteger_numeral (hlo : lo < 0) (hhi : 0 ≤ hi) {text : List Char} {z : Int}
    (h : Numeral text z) :
    readInteger lo hi text =
      if hi < z then .error .tooLarge else if z < lo then .error .tooSmall else .ok z := by
  obtain ⟨sign, negative, digits, hsign, hne, hdigits, rfl, rfl⟩ := h
  have hzero : signed negative 0 = 0 := by cases negative <;> rfl
  have hread := readDigits_eq (Int.le_of_lt hlo) hhi negative hdigits 0 (by omega) (by omega)
  rw [hzero, show digitsAfter 0 digits = _ from Binary32.digitsValue_eq digits] at hread
  rw [readInteger_sign hlo hsign hne fun _ => head?_ne_sign hdigits, hread]

lemma numeral_of_readInteger (hlo : lo < 0) {text : List Char} {n : Int}
    (h : readInteger lo hi text = .ok n) : ∃ z, Numeral text z := by
  obtain ⟨sign, negative, digits, hsign, rfl, hhead⟩ := exists_sign text
  by_cases hne : digits = []
  · subst hne
    cases hsign <;> nomatch h
  · rw [readInteger_sign hlo hsign hne hhead] at h
    exact ⟨_, sign, negative, digits, hsign, hne, isDigit_of_readDigits h, rfl, rfl⟩

lemma numeral_writeInteger (n : Int) : Numeral (writeInteger n) n := by
  have hdigits : ∀ c ∈ Nat.toDigits 10 n.natAbs, c.isDigit = true := fun _ =>
    Binary32.isDigit_of_mem_toDigits
  unfold writeInteger
  split_ifs with hneg
  · refine ⟨['-'], true, _, .minus, Nat.toDigits_ne_nil, hdigits, rfl, ?_⟩
    simp only [Nat.ofDigitChars_ten_toDigits, signed, if_true]
    omega
  · refine ⟨[], false, _, .none, Nat.toDigits_ne_nil, hdigits, rfl, ?_⟩
    simp only [Nat.ofDigitChars_ten_toDigits, signed, Bool.false_eq_true, if_false]
    omega

lemma readInteger_writeInteger (hlo : lo < 0) (hhi : 0 ≤ hi) {n : Int} (h₁ : lo ≤ n)
    (h₂ : n ≤ hi) : readInteger lo hi (writeInteger n) = .ok n := by
  rw [readInteger_numeral hlo hhi (numeral_writeInteger n), if_neg (by omega), if_neg (by omega)]

/-! ## Blanks -/

lemma trimEnd_eq_self {text : List Char} (h : ∀ c ∈ text, isBlank c = false) :
    trimEnd text = text := by
  have hdrop : text.reverse.dropWhile isBlank = text.reverse := by
    cases hrev : text.reverse with
    | nil => rfl
    | cons c rest =>
      have hc : c ∈ text := List.mem_reverse.mp (hrev ▸ List.mem_cons_self)
      exact List.dropWhile_cons_of_neg (by simp [h c hc])
  rw [trimEnd, hdrop, List.reverse_reverse]

lemma trim_eq_self {text : List Char} (h : ∀ c ∈ text, isBlank c = false) : trim text = text := by
  have hdrop : text.dropWhile isBlank = text := by
    cases text with
    | nil => rfl
    | cons c rest => exact List.dropWhile_cons_of_neg (by simp [h c List.mem_cons_self])
  rw [trim, hdrop, trimEnd_eq_self h]

lemma isBlank_of_mem_marks {c : Char} (h : c ∈ Binary32.marks) : isBlank c = false := by
  have hall : Binary32.marks.all (fun c => isBlank c = false) = true := by decide
  exact of_decide_eq_true (List.all_eq_true.mp hall c h)

lemma writeInteger_subset_marks (n : Int) : writeInteger n ⊆ Binary32.marks := by
  have hdigits : Nat.toDigits 10 n.natAbs ⊆ Binary32.marks :=
    Binary32.subset_marks fun _ => Binary32.isDigit_of_mem_toDigits
  unfold writeInteger
  split_ifs
  · exact List.cons_subset.mpr ⟨by decide, hdigits⟩
  · exact hdigits

lemma trim_writeInteger (n : Int) : trim (writeInteger n) = writeInteger n :=
  trim_eq_self fun _ hc => isBlank_of_mem_marks (writeInteger_subset_marks n hc)

lemma trim_text (style : Style) (x : Binary32) : trim (x.text style) = x.text style :=
  trim_eq_self fun _ hc => isBlank_of_mem_marks (Binary32.text_subset_marks style x hc)

end Text

end Fieldbus
