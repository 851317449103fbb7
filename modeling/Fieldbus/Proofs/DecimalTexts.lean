import Fieldbus.Proofs.NearestFloats
import Mathlib.Algebra.Order.Field.Power

/-!
# Texts of numbers

A number is written with digits, perhaps a point among them, and perhaps an exponent, and stands for
a rational number of any size. The reader takes exactly these texts and the words for infinities and
for no number, each after an optional sign. It rounds the number that is written once, also where it
tells from the exponent alone that the number is too large or too small for a float.

A float is written with the digits of its shortest decimal, and whatever a style does with them, the
text stands for that decimal. So every finite float is read from its own text in any style.
-/

namespace Fieldbus

namespace Decimal

lemma num_natCast (digits k : Nat) : num ⟨digits, k⟩ = digits * Nat.pow 10 k := rfl

lemma den_natCast (digits k : Nat) : den ⟨digits, k⟩ = 1 := by simp [den]

lemma num_neg_natCast (digits k : Nat) : num ⟨digits, -k⟩ = digits := by simp [num]

lemma den_neg_natCast (digits k : Nat) : den ⟨digits, -k⟩ = Nat.pow 10 k := by simp [den]

lemma num_div_den (d : Decimal) : (d.num : ℚ) / d.den = d.digits * 10 ^ d.exponent := by
  obtain ⟨digits, e⟩ := d
  obtain ⟨k, rfl | rfl⟩ := e.eq_nat_or_neg
  · rw [num_natCast, den_natCast]
    simp
  · rw [num_neg_natCast, den_neg_natCast]
    simp [div_eq_mul_inv]

lemma den_pos (d : Decimal) : 0 < d.den := Nat.pow_pos (by decide)

end Decimal

namespace Binary32

/-! ## The grammar -/

/-- Digits with a point or without, the digits alone, and the number of those after the point. -/
inductive Mantissa : List Char → List Char → Nat → Prop where
  | whole {digits : List Char} (h : ∀ c ∈ digits, c.isDigit = true) (hne : digits ≠ []) :
      Mantissa digits digits 0
  | point {whole fraction : List Char} (hwhole : ∀ c ∈ whole, c.isDigit = true)
      (hfraction : ∀ c ∈ fraction, c.isDigit = true) (hne : whole ++ fraction ≠ []) :
      Mantissa (whole ++ '.' :: fraction) (whole ++ fraction) fraction.length

/-- An integer after its mark; there need not be any. -/
inductive Exponent : List Char → Int → Prop where
  | absent : Exponent [] 0
  | present {mark : Char} {text : List Char} {e : Int} (hmark : mark = 'e' ∨ mark = 'E')
      (h : Text.Numeral text e) : Exponent (mark :: text) e

/-- The text of a number. -/
inductive Literal : List Char → ℚ → Prop where
  | mk {sign mantissa digits exponent : List Char} {negative : Bool} {places : Nat} {e : Int}
      (hsign : Text.Sign sign negative) (hmantissa : Mantissa mantissa digits places)
      (hexponent : Exponent exponent e) :
      Literal (sign ++ (mantissa ++ exponent))
        (Text.signed negative (Nat.ofDigitChars 10 digits 0) * 10 ^ (e - places))

/-- A word for an infinity, in any case. -/
inductive Infinity : List Char → Bool → Prop where
  | mk {sign word : List Char} {negative : Bool} (hsign : Text.Sign sign negative)
      (h : word.map Char.toLower = "inf".toList ∨ word.map Char.toLower = "infinity".toList) :
      Infinity (sign ++ word) negative

/-- The word for no number, in any case and with any sign. -/
inductive NoNumber : List Char → Prop where
  | mk {sign word : List Char} {negative : Bool} (hsign : Text.Sign sign negative)
      (h : word.map Char.toLower = "nan".toList) : NoNumber (sign ++ word)

/-! ## Reading the parts -/

section Exponents

variable {mark : Char} {sign digits : List Char} {negative : Bool}

lemma readExponent?_sign (hmark : mark = 'e' ∨ mark = 'E') (hsign : Text.Sign sign negative)
    (hhead : sign = [] → digits.head? ≠ some '+' ∧ digits.head? ≠ some '-') :
    readExponent? (mark :: (sign ++ digits)) =
      if digits.isEmpty || !digits.all Char.isDigit then none
      else some (Text.signed negative (digitsValue digits)) := by
  cases hsign with
  | plus => simp [readExponent?, hmark, Text.signed]
  | minus => simp [readExponent?, hmark, Text.signed]
  | none =>
    have h := hhead rfl
    cases digits with
    | nil => simp [readExponent?, hmark]
    | cons c digits =>
      simp only [List.head?_cons, ne_eq, Option.some.injEq] at h
      simp only [readExponent?, hmark, if_true, List.nil_append]
      split
      · next heq => exact absurd (List.cons.inj heq).1 h.2
      · next heq => exact absurd (List.cons.inj heq).1 h.1
      · simp [Text.signed]

lemma readExponent?_eq_some_iff {text : List Char} {e : Int} :
    readExponent? text = some e ↔ Exponent text e := by
  constructor
  · intro h
    cases text with
    | nil =>
      obtain rfl := Option.some.inj h
      exact .absent
    | cons mark text =>
      by_cases hmark : mark = 'e' ∨ mark = 'E'
      · obtain ⟨sign, negative, digits, hsign, rfl, hhead⟩ := Text.exists_sign text
        rw [readExponent?_sign hmark hsign hhead] at h
        split_ifs at h with hbad
        obtain rfl := Option.some.inj h
        simp only [Bool.or_eq_true, List.isEmpty_iff, Bool.not_eq_true', not_or,
          Bool.not_eq_false, List.all_eq_true] at hbad
        rw [digitsValue_eq]
        exact .present hmark ⟨sign, negative, digits, hsign, hbad.1, hbad.2, rfl, rfl⟩
      · simp [readExponent?, hmark] at h
  · intro h
    cases h with
    | absent => rfl
    | present hmark h =>
      obtain ⟨sign, negative, digits, hsign, hne, hdigits, rfl, rfl⟩ := h
      have hhead := Text.head?_ne_sign hdigits
      rw [readExponent?_sign hmark hsign fun _ => hhead, if_neg, digitsValue_eq]
      simpa [hne] using hdigits

lemma Exponent.head?_ne {text : List Char} {e : Int} (h : Exponent text e) :
    (∀ c ∈ text.head?, c.isDigit = false) ∧ text.head? ≠ some '.' := by
  cases h with
  | absent => simp
  | present hmark => obtain rfl | rfl := hmark <;> simp

end Exponents

lemma exists_digits (text : List Char) :
    ∃ digits rest, text = digits ++ rest ∧ (∀ c ∈ digits, c.isDigit = true) ∧
      ∀ c ∈ rest.head?, c.isDigit = false := by
  induction text with
  | nil => exact ⟨[], [], rfl, by simp, by simp⟩
  | cons c text ih =>
    by_cases hc : c.isDigit = true
    · obtain ⟨digits, rest, rfl, hdigits, hrest⟩ := ih
      exact ⟨c :: digits, rest, rfl, List.forall_mem_cons.mpr ⟨hc, hdigits⟩, hrest⟩
    · exact ⟨[], c :: text, rfl, by simp, by simpa using hc⟩

lemma readDecimal?_eq_some_iff {text : List Char} {m : Nat} :
    readDecimal? text = some m ↔ ∃ mantissa digits places exponent e,
      Mantissa mantissa digits places ∧ Exponent exponent e ∧ text = mantissa ++ exponent ∧
        m = nearestDecimal (digitsValue digits) digits.length (e - places) := by
  constructor
  · intro h
    obtain ⟨whole, rest, rfl, hwhole, hrest⟩ := exists_digits text
    by_cases hpoint : rest.head? = some '.'
    · obtain ⟨tail, rfl⟩ := List.head?_eq_some_iff.mp hpoint
      obtain ⟨fraction, exponent, rfl, hfraction, hexponent⟩ := exists_digits tail
      rw [readDecimal?_point hwhole hfraction hexponent] at h
      split_ifs at h with hempty
      obtain ⟨e, he, rfl⟩ := Option.map_eq_some_iff.mp h
      exact ⟨_, _, _, exponent, e, .point hwhole hfraction (by simpa using hempty),
        readExponent?_eq_some_iff.mp he, by simp, rfl⟩
    · rw [readDecimal?_whole hwhole hrest hpoint] at h
      split_ifs at h with hempty
      obtain ⟨e, he, rfl⟩ := Option.map_eq_some_iff.mp h
      exact ⟨_, _, _, rest, e, .whole hwhole (by simpa using hempty),
        readExponent?_eq_some_iff.mp he, rfl, by simp⟩
  · rintro ⟨mantissa, digits, places, exponent, e, hmantissa, hexponent, rfl, rfl⟩
    have hread := readExponent?_eq_some_iff.mpr hexponent
    obtain ⟨hdigit, hpoint⟩ := hexponent.head?_ne
    cases hmantissa with
    | whole hdigits hne =>
      rw [readDecimal?_whole hdigits hdigit hpoint, if_neg (by simpa using hne), hread]
      simp
    | point hwhole hfraction hne =>
      rw [List.append_assoc, List.cons_append, readDecimal?_point hwhole hfraction hdigit,
        if_neg (by simpa using hne), hread]
      rfl

/-! ## Rounding what is read -/

lemma digitsValue_lt {digits : List Char} (h : ∀ c ∈ digits, c.isDigit = true) :
    digitsValue digits < Nat.pow 10 digits.length := by
  induction digits with
  | nil => decide
  | cons c digits ih =>
    obtain ⟨hc, hdigits⟩ := List.forall_mem_cons.mp h
    have hlt := ih hdigits
    have hdigit : digitsValue [c] ≤ 9 := by
      have hle : c.toNat ≤ 57 := (Char.isDigit_iff_toNat.mp hc).2
      change 0 * 10 + (c.toNat - 48) ≤ 9
      omega
    have hscaled := Nat.mul_le_mul_right (Nat.pow 10 digits.length) hdigit
    have hpow : Nat.pow 10 (c :: digits).length = 10 * Nat.pow 10 digits.length :=
      Nat.pow_succ'
    rw [show c :: digits = [c] ++ digits from rfl, digitsValue_append]
    change _ < Nat.pow 10 (c :: digits).length
    omega

lemma place_infinite : place infinite = 2 ^ 128 := by
  have hunits : units infinite = 2 ^ 128 * 2 ^ 149 := by decide
  rw [place_natCast, hunits]
  norm_num

lemma place_one : place 1 = 1 / 2 ^ 149 := by
  have hunits : units 1 = 1 := rfl
  simp [place, hunits]

section Nearest

variable {q : ℚ} {n : Nat}

lemma NearestPlace.infinite_le (h : NearestPlace q n) (hq : (10 : ℚ) ^ 41 ≤ q) : infinite ≤ n := by
  have hplace : place infinite ≤ q :=
    calc place infinite = 2 ^ 128 := place_infinite
      _ ≤ 10 ^ 41 := by norm_num
      _ ≤ q := hq
  exact_mod_cast h.le_of_place_le hplace

lemma NearestPlace.eq_zero (h : NearestPlace q n) (hpos : 0 ≤ q) (hq : q ≤ 1 / (10 : ℚ) ^ 51) :
    n = 0 := by
  by_contra hn
  have hplace : place 1 ≤ place n := place_le_iff.mpr (by omega)
  have hle := h.le 0
  rw [place_zero, zero_sub, abs_neg, abs_of_nonneg hpos] at hle
  have hhalf : 1 / (10 : ℚ) ^ 51 < 1 / 2 ^ 149 / 2 := by norm_num
  rw [place_one] at hplace
  linarith [le_abs_self (place n - q)]

end Nearest

/-- Where a number is told from its exponent to be too large or too small, rounding it gives the
same. -/
lemma nearestDecimal_eq_nearest {digits width : Nat} (h : digits < Nat.pow 10 width) (e : Int) :
    nearestDecimal digits width e =
      nearest (Decimal.num ⟨digits, e⟩) (Decimal.den ⟨digits, e⟩) := by
  have hplace := nearestPlace_rounded (Decimal.num ⟨digits, e⟩) (Decimal.den_pos ⟨digits, e⟩)
  rw [Decimal.num_div_den] at hplace
  have hnearest : nearest (Decimal.num ⟨digits, e⟩) (Decimal.den ⟨digits, e⟩) =
      min (rounded (Decimal.num ⟨digits, e⟩ * Nat.pow 2 149) (Decimal.den ⟨digits, e⟩))
        infinite := rfl
  have hten : (0 : ℚ) < 10 ^ e := by positivity
  unfold nearestDecimal
  by_cases hzero : digits = 0
  · rw [if_pos hzero, hzero, Decimal.num, Nat.zero_mul, nearest_zero]
  by_cases hlarge : 40 < e
  · have hdigits : (1 : ℚ) ≤ digits := by exact_mod_cast Nat.one_le_iff_ne_zero.mpr hzero
    have hpow : (10 : ℚ) ^ (41 : ℤ) ≤ 10 ^ e := zpow_le_zpow_right₀ (by norm_num) (by omega)
    have hinfinite := hplace.infinite_le (hpow.trans (le_mul_of_one_le_left hten.le hdigits))
    rw [if_neg hzero, if_pos hlarge, hnearest, min_eq_right hinfinite]
  by_cases hsmall : e + width < -50
  · have hdigits : (digits : ℚ) ≤ 10 ^ (width : ℤ) := by
      rw [zpow_natCast]
      exact_mod_cast h.le
    have hbound : (digits : ℚ) * 10 ^ e ≤ 1 / 10 ^ 51 :=
      calc (digits : ℚ) * 10 ^ e ≤ 10 ^ (width : ℤ) * 10 ^ e := by gcongr
        _ = 10 ^ ((width : ℤ) + e) := (zpow_add₀ (by norm_num) _ _).symm
        _ ≤ 10 ^ (-51 : ℤ) := zpow_le_zpow_right₀ (by norm_num) (by omega)
        _ = 1 / 10 ^ 51 := by norm_num
    rw [if_neg hzero, if_neg hlarge, if_pos hsmall, hnearest,
      hplace.eq_zero (by positivity) hbound]
    rfl
  · rw [if_neg hzero, if_neg hlarge, if_neg hsmall]

/-! ## Reading a number or a word -/

section Read

variable {sign text : List Char} {negative : Bool}

lemma Mantissa.exists_cons {mantissa digits : List Char} {places : Nat}
    (h : Mantissa mantissa digits places) : ∃ c rest, mantissa = c :: rest ∧ c ∈ numerals := by
  cases h with
  | whole hdigits hne =>
    obtain ⟨c, rest, rfl⟩ := List.exists_cons_of_ne_nil hne
    exact ⟨c, rest, rfl, mem_numerals_of_isDigit (hdigits c List.mem_cons_self)⟩
  | @point whole fraction hwhole =>
    cases whole with
    | nil => exact ⟨'.', fraction, rfl, by decide⟩
    | cons c whole => exact ⟨c, _, rfl, mem_numerals_of_isDigit (hwhole c List.mem_cons_self)⟩

lemma Mantissa.isDigit {mantissa digits : List Char} {places : Nat}
    (h : Mantissa mantissa digits places) : ∀ c ∈ digits, c.isDigit = true := by
  cases h with
  | whole hdigits => exact hdigits
  | point hwhole hfraction => exact List.forall_mem_append.mpr ⟨hwhole, hfraction⟩

lemma read_mantissa (hsign : Text.Sign sign negative) {mantissa digits exponent : List Char}
    {places : Nat} {e : Int} (hmantissa : Mantissa mantissa digits places)
    (hexponent : Exponent exponent e) :
    read (sign ++ (mantissa ++ exponent)) =
      .ok (ofRatio negative (Decimal.num ⟨digitsValue digits, e - places⟩)
        (Decimal.den ⟨digitsValue digits, e - places⟩)) := by
  have hdecimal := readDecimal?_eq_some_iff.mpr ⟨_, _, _, _, _, hmantissa, hexponent, rfl, rfl⟩
  rw [nearestDecimal_eq_nearest (digitsValue_lt hmantissa.isDigit)] at hdecimal
  obtain ⟨c, rest, rfl, hc⟩ := hmantissa.exists_cons
  obtain ⟨hminus, hplus⟩ := ne_sign_of_mem_numerals hc
  rw [read_sign hsign (by simp) fun _ => by simp [hplus, hminus], List.cons_append,
    readMagnitude?_of_mem_numerals hc, ← List.cons_append, hdecimal]
  rfl

lemma Literal.read {q : ℚ} (h : Literal text q) : ∃ x, read text = .ok x ∧ Rounds q x := by
  cases h with
  | @mk sign mantissa digits exponent negative places e hsign hmantissa hexponent =>
    have hround := rounds_ofRatio negative (Decimal.num ⟨digitsValue digits, e - places⟩)
      (Decimal.den_pos ⟨digitsValue digits, e - places⟩)
    have hvalue (n : Nat) (r : ℚ) :
        (if negative then -(n * r) else n * r) = Text.signed negative n * r := by
      cases negative <;> simp [Text.signed]
    rw [Decimal.num_div_den, hvalue, digitsValue_eq] at hround
    rw [← digitsValue_eq] at hround ⊢
    exact ⟨_, read_mantissa hsign hmantissa hexponent, hround⟩

lemma read_word (hsign : Text.Sign sign negative) {word : List Char} {l : Char}
    (h : (word.map Char.toLower).head? = some l) (hl : l ≠ '+' ∧ l ≠ '-') :
    read (sign ++ word) =
      (readMagnitude? word).elim (.error .invalid) fun m => .ok (ofParts negative m) := by
  rw [List.head?_map] at h
  apply read_sign hsign
  · rintro rfl
    nomatch h
  · intro _
    constructor
    all_goals
      intro hhead
      simp only [hhead, Option.map_some, Option.some.injEq] at h
      subst h
      simp at hl

lemma Infinity.read (h : Infinity text negative) : read text = .ok (ofParts negative infinite) := by
  cases h with
  | @mk sign word negative hsign h =>
    have hhead : (word.map Char.toLower).head? = some 'i' := by
      obtain hword | hword := h <;>
        · rw [hword]
          rfl
    rw [read_word hsign hhead (by decide), readMagnitude?, if_pos h]
    rfl

lemma NoNumber.read (h : NoNumber text) : ∃ x, read text = .ok x ∧ x.isNaN = true := by
  cases h with
  | @mk sign word negative hsign h =>
    have hhead : (word.map Char.toLower).head? = some 'n' := by
      rw [h]
      rfl
    refine ⟨ofParts negative 0x7FC00000, ?_, ?_⟩
    · rw [read_word hsign hhead (by decide), readMagnitude?, if_neg (by rw [h]; decide), if_pos h]
      rfl
    · rw [isNaN, magnitude_ofParts _ (by decide)]
      rfl

/-- Everything that can be read. -/
lemma read_cases {x : Binary32} (h : read text = .ok x) :
    (∃ q, Literal text q) ∨ (∃ negative, Infinity text negative) ∨ NoNumber text := by
  obtain ⟨sign, negative, body, hsign, rfl, hhead⟩ := Text.exists_sign text
  by_cases hne : body = []
  · subst hne
    cases hsign <;> nomatch h
  rw [read_sign hsign hne hhead] at h
  cases hread : readMagnitude? body with
  | none => simp [hread] at h
  | some m =>
    unfold readMagnitude? at hread
    dsimp only at hread
    split_ifs at hread with hinf hnan
    · exact .inr (.inl ⟨negative, .mk hsign hinf⟩)
    · exact .inr (.inr (.mk hsign hnan))
    · obtain ⟨mantissa, digits, places, exponent, e, hmantissa, hexponent, rfl, -⟩ :=
        readDecimal?_eq_some_iff.mp hread
      exact .inl ⟨_, .mk hsign hmantissa hexponent⟩

end Read

/-! ## The text of a float -/

lemma divNearest_mul_right (num den : Nat) {c : Nat} (hc : 0 < c) :
    divNearest (num * c) (den * c) = divNearest num den := by
  have hlt : 2 * (num % den * c) < den * c ↔ 2 * (num % den) < den := by
    rw [← Nat.mul_assoc, Nat.mul_lt_mul_right hc]
  have heq : 2 * (num % den * c) = den * c ↔ 2 * (num % den) = den := by
    rw [← Nat.mul_assoc, Nat.mul_left_inj hc.ne']
  simp only [divNearest, Nat.mul_div_mul_right _ _ hc, Nat.mul_mod_mul_right, hlt, heq]

lemma nearest_mul_right (num den : Nat) {c : Nat} (hc : 0 < c) :
    nearest (num * c) (den * c) = nearest num den := by
  simp only [nearest, excess, Nat.mul_right_comm _ c, Nat.mul_div_mul_right _ _ hc,
    divNearest_mul_right _ _ hc]

section Layout

variable (style : Style) {digits : List Char}

lemma exists_mantissa_layPositional (hdigits : ∀ c ∈ digits, c.isDigit = true)
    (hne : digits ≠ []) (e : Int) :
    ∃ digits' places, Mantissa (style.layPositional digits (digits.length + e)) digits' places ∧
      nearest (Decimal.num ⟨digitsValue digits', 0 - places⟩)
          (Decimal.den ⟨digitsValue digits', 0 - places⟩) =
        nearest (Decimal.num ⟨digitsValue digits, e⟩) (Decimal.den ⟨digitsValue digits, e⟩) := by
  have hlen := List.length_pos_iff.mpr hne
  unfold Style.layPositional
  split_ifs with hsmall hinside hpointed
  · -- All digits stand after the point, with zeros before them.
    generalize hzeros : (-(digits.length + e)).toNat = zeros
    have hfraction : ∀ c ∈ List.replicate zeros '0' ++ digits, c.isDigit = true :=
      List.forall_mem_append.mpr ⟨fun _ => isDigit_of_mem_zeros, hdigits⟩
    have hmantissa : Mantissa (['0'] ++ '.' :: (List.replicate zeros '0' ++ digits))
        (['0'] ++ (List.replicate zeros '0' ++ digits))
        (List.replicate zeros '0' ++ digits).length := .point (by simp) hfraction (by simp)
    have hvalue : digitsValue (['0'] ++ (List.replicate zeros '0' ++ digits)) =
        digitsValue digits := by
      rw [← List.append_assoc, digitsValue_append]
      change digitsValue (List.replicate (zeros + 1) '0') * _ + _ = _
      rw [digitsValue_zeros, Nat.zero_mul, Nat.zero_add]
    refine ⟨_, _, hmantissa, ?_⟩
    rw [hvalue, List.length_append, List.length_replicate,
      show 0 - ((zeros + digits.length : Nat) : Int) = e by omega]
  · -- The point stands among the digits.
    refine ⟨_, _, .point (fun c hc => hdigits c (List.mem_of_mem_take hc))
      (fun c hc => hdigits c (List.mem_of_mem_drop hc)) (by simpa using hne), ?_⟩
    rw [List.take_append_drop, List.length_drop,
      show 0 - ((digits.length - (digits.length + e).toNat : Nat) : Int) = e by omega]
  all_goals
    -- Zeros may follow the digits.
    obtain ⟨k, rfl⟩ := Int.eq_ofNat_of_zero_le (show 0 ≤ e by omega)
    have hk : (digits.length + (k : Int)).toNat - digits.length = k := by omega
    have hwhole : ∀ c ∈ digits ++ List.replicate k '0', c.isDigit = true :=
      List.forall_mem_append.mpr ⟨hdigits, fun _ => isDigit_of_mem_zeros⟩
    have hvalue : digitsValue (digits ++ List.replicate k '0') =
        digitsValue digits * Nat.pow 10 k := by
      rw [digitsValue_append, digitsValue_zeros, List.length_replicate, Nat.add_zero]
    simp only [hk, Decimal.num_natCast, Decimal.den_natCast]
  · have hmantissa : Mantissa (digits ++ List.replicate k '0' ++ '.' :: ['0'])
        (digits ++ List.replicate k '0' ++ ['0']) 1 := .point hwhole (by simp) (by simp)
    refine ⟨_, _, hmantissa, ?_⟩
    rw [digitsValue_append, hvalue, Int.zero_sub, Decimal.num_neg_natCast,
      Decimal.den_neg_natCast]
    exact nearest_mul_right (digitsValue digits * Nat.pow 10 k) 1 (by decide : 0 < 10)
  · refine ⟨_, _, .whole hwhole (by simp [hne]), ?_⟩
    rw [hvalue, Int.zero_sub, Decimal.num_neg_natCast, Decimal.den_neg_natCast]

lemma exponent_layExponent (e : Int) : Exponent ('e' :: style.layExponent e) e := by
  have hdigits : ∀ c ∈ Nat.toDigits 10 e.natAbs, c.isDigit = true := fun _ =>
    isDigit_of_mem_toDigits
  have hne : Nat.toDigits 10 e.natAbs ≠ [] := Nat.toDigits_ne_nil
  refine .present (.inl rfl) ?_
  unfold Style.layExponent
  dsimp only
  split_ifs with hnegative hsigned
  · refine ⟨['-'], true, _, .minus, hne, hdigits, rfl, ?_⟩
    simp only [Nat.ofDigitChars_ten_toDigits, Text.signed, if_true]
    omega
  · refine ⟨['+'], false, _, .plus, hne, hdigits, rfl, ?_⟩
    simp only [Nat.ofDigitChars_ten_toDigits, Text.signed, Bool.false_eq_true, if_false]
    omega
  · refine ⟨[], false, _, .none, hne, hdigits, rfl, ?_⟩
    simp only [Nat.ofDigitChars_ten_toDigits, Text.signed, Bool.false_eq_true, if_false]
    omega

lemma exists_mantissa_layScientific (hdigits : ∀ c ∈ digits, c.isDigit = true)
    (hne : digits ≠ []) (e : Int) :
    ∃ mantissa places, Mantissa mantissa digits places ∧
      style.layScientific digits e = mantissa ++ 'e' :: style.layExponent e ∧
      digits.length = places + 1 := by
  obtain ⟨first, fraction, rfl⟩ := List.exists_cons_of_ne_nil hne
  cases fraction with
  | nil => exact ⟨[first], 0, .whole hdigits hne, rfl, rfl⟩
  | cons second fraction =>
    obtain ⟨hfirst, hfraction⟩ := List.forall_mem_cons.mp hdigits
    have hmantissa : Mantissa ([first] ++ '.' :: second :: fraction)
        ([first] ++ second :: fraction) (second :: fraction).length :=
      .point (by simpa using hfirst) hfraction (by simp)
    exact ⟨_, _, hmantissa, rfl, rfl⟩

lemma read_layDecimal {sign : List Char} {negative : Bool} (hsign : Text.Sign sign negative)
    (d : Decimal) :
    read (sign ++ style.layDecimal d) = .ok (ofRatio negative d.num d.den) := by
  have hdigits : ∀ c ∈ Nat.toDigits 10 d.digits, c.isDigit = true := fun _ =>
    isDigit_of_mem_toDigits
  have hvalue := digitsValue_toDigits d.digits
  have hne : Nat.toDigits 10 d.digits ≠ [] := Nat.toDigits_ne_nil
  unfold Style.layDecimal
  dsimp only
  generalize Nat.toDigits 10 d.digits = digits at hdigits hvalue hne
  obtain ⟨_, e⟩ := d
  subst hvalue
  split_ifs
  · obtain ⟨digits', places, hmantissa, hnearest⟩ :=
      exists_mantissa_layPositional style hdigits hne e
    have hread := read_mantissa hsign hmantissa .absent
    rw [List.append_nil, ofRatio, hnearest] at hread
    exact hread
  · obtain ⟨mantissa, places, hmantissa, hlay, hlength⟩ :=
      exists_mantissa_layScientific style hdigits hne (digits.length + e - 1)
    rw [hlay, read_mantissa hsign hmantissa (exponent_layExponent style _),
      show digits.length + e - 1 - places = e by omega]

end Layout

/-- Every finite float is read from its own text in any style, bit for bit. -/
lemma read_text (style : Style) {x : Binary32} (h : x.isFinite = true) :
    read (x.text style) = .ok x := by
  have hfinite : x.magnitude < infinite := of_decide_eq_true h
  have hnan : x.isNaN = false := decide_eq_false (by omega)
  have hmagnitude {sign : List Char} {negative : Bool} (hsign : Text.Sign sign negative) :
      read (sign ++ style.layMagnitude x.magnitude) = .ok (ofParts negative x.magnitude) := by
    unfold Style.layMagnitude
    by_cases hzero : x.magnitude = 0
    · rw [if_pos hzero, read_layDecimal style hsign, ofRatio, hzero, Decimal.num, Nat.zero_mul,
        nearest_zero]
    · rw [if_neg hzero, if_pos hfinite, read_layDecimal style hsign, ofRatio,
        of_decide_eq_true (readsBack_shortest hfinite)]
  have hparts := ofParts_parts x
  rw [text, hnan, if_neg (by simp)]
  cases hnegative : x.isNegative with
  | false =>
    rw [hnegative] at hparts
    rw [if_neg (by simp)]
    exact (hmagnitude .none).trans (congrArg _ hparts)
  | true =>
    rw [hnegative] at hparts
    rw [if_pos rfl]
    exact (hmagnitude .minus).trans (congrArg _ hparts)

end Binary32

end Fieldbus
