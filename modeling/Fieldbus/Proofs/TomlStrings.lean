import Fieldbus.Toml.Scalar
import Fieldbus.Toml.Writer
import Mathlib.Tactic.Lemma
import Mathlib.Tactic.SplitIfs

/-!
# TOML strings are read as they were written

The writer takes the plainest of six forms that can hold a text, and the reader gives the text back
from each of them. On one line every character stands for itself or is the whole of an escape. Over
several lines the reader counts quote marks in a row before it decides what they are; the writer
never lets three of them stand together inside the text, so up to two that were counted belong to
the text also where they meet the three that end it.
-/

namespace Fieldbus.Toml

lemma prepend_some (chars text rest : List Char) :
    prepend chars (some (text, rest)) = some (chars ++ text, rest) := rfl

lemma prepend_nil (read : Read (List Char)) : prepend [] read = read := by
  cases read <;> rfl

lemma prepend_prepend (left right : List Char) (read : Read (List Char)) :
    prepend left (prepend right read) = prepend (left ++ right) read := by
  cases read with
  | none => rfl
  | some found => exact congrArg some (Prod.ext (List.append_assoc _ _ _).symm rfl)

lemma isPlain_of_not_isCode {c : Char} (hcode : isCode c = false) (hline : c ≠ '\n') :
    isPlain c = true := by
  simp only [isCode, isPlain, Bool.or_eq_false_iff, Bool.and_eq_false_iff, decide_eq_false_iff_not,
    bne_eq_false_iff_eq, beq_eq_false_iff_ne, Bool.or_eq_true, Bool.and_eq_true, decide_eq_true_eq,
    bne_iff_ne] at hcode ⊢
  exact .inr ⟨Nat.le_of_not_lt (hcode.1.resolve_right hline), hcode.2⟩

/-! ## Escapes -/

/-- From where it stands in an escape, a reader takes up characters and yields one character at the
last of them. -/
inductive Escape.Yields : Escape → List Char → Char → Prop where
  | last {escape : Escape} {d c : Char} (h : escapeStep escape d = some ([c], .none)) :
      Yields escape [d] c
  | next {escape after : Escape} {d c : Char} {chars : List Char}
      (h : escapeStep escape d = some ([], after)) (hafter : after ≠ .none)
      (hchars : Yields after chars c) : Yields escape (d :: chars) c

lemma yields_letter {d c : Char} (hu : d ≠ 'u') (hU : d ≠ 'U') (h : letter? d = some c) :
    Escape.Yields .begun [d] c := by
  apply Escape.Yields.last
  simp only [escapeStep, if_neg hu, if_neg hU, h, Option.map_some]

lemma hexValue?_digit {n : Nat} (h : n < 16) : hexValue? (Hex.digit true n) = some n := by
  have hall : ∀ n : Fin 16, hexValue? (Hex.digit true n.val) = some n.val := by decide
  exact hall ⟨n, h⟩

lemma yields_code {c : Char} (h : c.toNat < 0x80) :
    Escape.Yields .begun (['u', '0', '0'] ++ Hex.pair true (UInt8.ofNat c.toNat)) c := by
  have hbyte : (UInt8.ofNat c.toNat).toNat = c.toNat :=
    UInt8.toNat_ofNat_of_lt' (Nat.lt_trans h (by decide))
  have hchar : scalar? c.toNat = some c := by
    rw [scalar?, if_pos (by exact c.valid), Char.ofNat_toNat]
  have hhigh : escapeStep (.code 2 0) (Hex.digit true (c.toNat / 16)) =
      some ([], .code 1 (c.toNat / 16)) := by
    simp [escapeStep, hexValue?_digit (n := c.toNat / 16) (by omega)]
  have hlow : escapeStep (.code 1 (c.toNat / 16)) (Hex.digit true (c.toNat % 16)) =
      some ([c], .none) := by
    simp [escapeStep, hexValue?_digit (n := c.toNat % 16) (by omega), Nat.div_add_mod, hchar]
  rw [Hex.pair, hbyte]
  exact .next rfl nofun (.next rfl nofun (.next rfl nofun (.next hhigh nofun (.last hlow))))

lemma escapeChar_cases (lines : Bool) (c : Char) :
    (escapeChar lines c = [c] ∧ c ≠ '\\' ∧ (isPlain c = true ∨ lines = true ∧ c = '\n')) ∨
      ∃ chars, escapeChar lines c = '\\' :: chars ∧ Escape.Yields .begun chars c := by
  unfold escapeChar
  split_ifs with h₁ h₂ h₃ h₄ h₅ h₆ h₇ h₈
  · exact .inr ⟨_, rfl, yields_letter (by decide) (by decide) (h₁ ▸ rfl)⟩
  · exact .inr ⟨_, rfl, yields_letter (by decide) (by decide) (h₂ ▸ rfl)⟩
  · exact .inl ⟨rfl, h₃ ▸ by decide, .inr ⟨h₄, h₃⟩⟩
  · exact .inr ⟨_, rfl, yields_letter (by decide) (by decide) (h₃ ▸ rfl)⟩
  · exact .inr ⟨_, rfl, yields_letter (by decide) (by decide) (h₅ ▸ rfl)⟩
  · exact .inr ⟨_, rfl, yields_letter (by decide) (by decide) (h₆ ▸ rfl)⟩
  · exact .inr ⟨_, rfl, yields_letter (h₇ ▸ by decide) (h₇ ▸ by decide) (h₇ ▸ rfl)⟩
  · refine .inr ⟨_, rfl, yields_code ?_⟩
    simp only [isCode, Bool.or_eq_true, Bool.and_eq_true, decide_eq_true_eq, beq_iff_eq] at h₈
    omega
  · exact .inl ⟨rfl, h₇, .inl (isPlain_of_not_isCode (Bool.eq_false_iff.mpr h₈) h₃)⟩

/-! ## Strings on one line -/

section Line

variable {c : Char} {text rest : List Char}

lemma basic_plain (hquote : c ≠ '\x22') (hslash : c ≠ '\\') (hplain : isPlain c = true)
    (rest : List Char) : basic .none (c :: rest) = prepend [c] (basic .none rest) := by
  rw [basic, if_neg hquote, if_neg hslash, if_pos hplain]

lemma basic_yields {escape : Escape} {chars : List Char} (hchars : escape.Yields chars c)
    (h : escape ≠ .none) (rest : List Char) :
    basic escape (chars ++ rest) = prepend [c] (basic .none rest) := by
  have hstep {escape : Escape} (h : escape ≠ .none) (d : Char) (tail : List Char) :
      basic escape (d :: tail) =
        (escapeStep escape d).bind fun step => prepend step.1 (basic step.2 tail) := by
    rw [basic]
    · cases escapeStep escape d <;> rfl
    · exact h
  induction hchars with
  | last hlast => rw [List.singleton_append, hstep h, hlast, Option.bind_some]
  | next hnext hafter hchars ih =>
    rw [List.cons_append, hstep h, hnext, Option.bind_some, prepend_nil, ih hafter]

lemma basic_of_plain (h : ∀ c ∈ text, c ≠ '\x22' ∧ c ≠ '\\' ∧ isPlain c = true) :
    basic .none (text ++ '\x22' :: rest) = some (text, rest) := by
  induction text with
  | nil => rfl
  | cons c text ih =>
    obtain ⟨⟨hquote, hslash, hplain⟩, htext⟩ := List.forall_mem_cons.mp h
    rw [List.cons_append, basic_plain hquote hslash hplain, ih htext, prepend_some]
    rfl

lemma literal_of_plain (h : ∀ c ∈ text, c ≠ '\x27' ∧ isPlain c = true) :
    literal (text ++ '\x27' :: rest) = some (text, rest) := by
  induction text with
  | nil => rfl
  | cons c text ih =>
    obtain ⟨⟨hquote, hplain⟩, htext⟩ := List.forall_mem_cons.mp h
    rw [List.cons_append, literal, if_neg hquote, if_pos hplain, ih htext, prepend_some]
    rfl

lemma basic_escapeFrom (text rest : List Char) (run : Nat) :
    basic .none (escapeFrom false run text ++ '\x22' :: rest) = some (text, rest) := by
  induction text generalizing run with
  | nil => rfl
  | cons c text ih =>
    rw [escapeFrom]
    by_cases hquote : c = '\x22'
    · have hyields : Escape.Yields .begun [c] c := hquote ▸ .last rfl
      rw [if_pos hquote, Bool.not_false, Bool.true_or, if_pos rfl]
      change basic .begun ([c] ++ (escapeFrom false 0 text ++ '\x22' :: rest)) = _
      rw [basic_yields hyields nofun, ih, prepend_some]
      rfl
    · rw [if_neg hquote, List.append_assoc]
      obtain ⟨hself, hslash, hplain⟩ | ⟨chars, hchars, hyields⟩ := escapeChar_cases false c
      · have hplain : isPlain c = true := hplain.resolve_right nofun
        rw [hself, List.singleton_append, basic_plain hquote hslash hplain, ih, prepend_some]
        rfl
      · rw [hchars]
        change basic .begun (chars ++ _) = _
        rw [basic_yields hyields nofun, ih, prepend_some]
        rfl

lemma head?_escapeFrom (text : List Char) : '\x22' ∉ (escapeFrom false 0 text).head? := by
  cases text with
  | nil => nofun
  | cons c text =>
    rw [escapeFrom]
    by_cases hquote : c = '\x22'
    · rw [if_pos hquote, Bool.not_false, Bool.true_or, if_pos rfl]
      simp
    · rw [if_neg hquote]
      obtain ⟨hself, _⟩ | ⟨chars, hchars, _⟩ := escapeChar_cases false c
      · rw [hself]
        simpa using hquote
      · rw [hchars]
        simp

/-- Two quote marks in a row begin no string of several lines unless a third one follows. -/
lemma string?_eq_lineString? {mark : Char} {body : List Char} (hbody : mark ∉ body.head?)
    (hc : c ≠ mark) (rest : List Char) :
    string? (mark :: body ++ [mark] ++ c :: rest) =
      lineString? (mark :: (body ++ mark :: c :: rest)) := by
  have hthird (tail : List Char) : body ++ mark :: c :: rest ≠ mark :: mark :: tail := by
    intro h
    cases body with
    | nil => exact hc (List.cons.inj (List.cons.inj h).2).1
    | cons d body => exact hbody (congrArg some (List.cons.inj h).1)
  rw [List.append_assoc, List.singleton_append, List.cons_append]
  unfold string?
  split
  · rename_i tail h
    obtain ⟨rfl, htail⟩ := List.cons.inj h
    exact absurd htail (hthird tail)
  · rename_i tail h
    obtain ⟨rfl, htail⟩ := List.cons.inj h
    exact absurd htail (hthird tail)
  · rfl

end Line

/-! ## Strings over several lines -/

section Lines

variable {quote c d : Char} {escapes : Bool} {run : Nat} {text rest : List Char}

lemma multiline_cons (quote : Char) (escapes : Bool) (mode : Mode) (c : Char) (rest : List Char) :
    multiline quote escapes mode (c :: rest) =
      match action quote escapes mode c with
      | .refuse => none
      | .stop out => some (out, c :: rest)
      | .next out mode => prepend out (multiline quote escapes mode rest) := by
  cases mode <;> rfl

lemma multiline_quote (h : run < 5) (rest : List Char) :
    multiline quote escapes (.quotes run) (quote :: rest) =
      multiline quote escapes (.quotes (run + 1)) rest := by
  have haction : action quote escapes (.quotes run) quote = .next [] (.quotes (run + 1)) :=
    if_pos ⟨rfl, h⟩
  rw [multiline_cons, haction]
  exact prepend_nil _

lemma multiline_other (hrun : run ≤ 2) (hc : c ≠ quote) {out : List Char} {mode : Mode}
    (h : textAction quote escapes c = .next out mode) (rest : List Char) :
    multiline quote escapes (.quotes run) (c :: rest) =
      prepend (List.replicate run quote ++ out) (multiline quote escapes mode rest) := by
  have haction : action quote escapes (.quotes run) c =
      .next (List.replicate run quote ++ out) mode := by
    rw [action, if_neg (fun hand => hc hand.1), if_neg (by omega), h]
  rw [multiline_cons, haction]

lemma multiline_text (quote : Char) (escapes : Bool) (text : List Char) :
    multiline quote escapes .text text = multiline quote escapes (.quotes 0) text := by
  cases text with
  | nil => rfl
  | cons c rest =>
    by_cases hc : c = quote
    · have haction : action quote escapes .text c = .next [] (.quotes 1) := if_pos hc
      rw [multiline_cons, haction, hc, multiline_quote (by omega)]
      exact prepend_nil _
    · rw [multiline_cons, multiline_cons, action, action, if_neg (fun hand => hc hand.1),
        if_neg (by omega)]
      cases textAction quote escapes c <;> rfl

lemma multiline_close (hrun : run ≤ 2) (hc : c ≠ quote) (rest : List Char) :
    multiline quote escapes (.quotes run) (List.replicate 3 quote ++ c :: rest) =
      some (List.replicate run quote, c :: rest) := by
  have haction : action quote escapes (.quotes (run + 3)) c =
      .stop (List.replicate run quote) := by
    rw [action, if_neg (fun hand => hc hand.1), if_pos (by omega), Nat.add_sub_cancel]
  change multiline quote escapes (.quotes run) (quote :: quote :: quote :: c :: rest) = _
  rw [multiline_quote (by omega), multiline_quote (by omega), multiline_quote (by omega),
    multiline_cons, haction]

lemma textAction_plain (hc : c ≠ quote) (hslash : c = '\\' → escapes = false)
    (hplain : isPlain c = true ∨ c = '\n') : textAction quote escapes c = .next [c] .text := by
  have hescape : ¬(c = '\\' ∧ escapes = true) := by
    rintro ⟨rfl, h⟩
    rw [hslash rfl] at h
    nomatch h
  rw [textAction, if_neg hc, if_neg hescape]
  obtain hplain | rfl := hplain
  · have hline : c ≠ '\n' := by
      rintro rfl
      nomatch hplain
    have hreturn : c ≠ '\r' := by
      rintro rfl
      nomatch hplain
    rw [if_neg hline, if_neg hreturn, if_pos hplain]
  · rfl

lemma le_longestRunFrom (mark : Char) (run : Nat) (text : List Char) :
    run ≤ longestRunFrom mark run text := by
  induction text generalizing run with
  | nil => exact Nat.le_refl run
  | cons c text ih =>
    rw [longestRunFrom]
    split
    · exact Nat.le_of_succ_le (ih (run + 1))
    · exact Nat.le_max_left _ _

-- The reader has counted `run` quote marks, which are not in its output yet.
lemma multiline_of_plain (hc : c ≠ quote) (hrun : longestRunFrom quote run text ≤ 2)
    (htext : ∀ d ∈ text, (d = '\\' → escapes = false) ∧ (isPlain d = true ∨ d = '\n')) :
    multiline quote escapes (.quotes run) (text ++ (List.replicate 3 quote ++ c :: rest)) =
      some (List.replicate run quote ++ text, c :: rest) := by
  induction text generalizing run with
  | nil =>
    have hrun : run ≤ 2 := hrun
    rw [List.nil_append, multiline_close hrun hc, List.append_nil]
  | cons d text ih =>
    obtain ⟨⟨hslash, hplain⟩, htext⟩ := List.forall_mem_cons.mp htext
    have hle := le_longestRunFrom quote run (d :: text)
    rw [longestRunFrom] at hrun hle
    by_cases hd : d = quote
    · subst hd
      rw [if_pos rfl] at hrun hle
      rw [List.cons_append, multiline_quote (by omega), ih hrun htext, List.replicate_succ',
        List.append_assoc]
      rfl
    · rw [if_neg hd] at hrun hle
      rw [List.cons_append, multiline_other (by omega) hd (textAction_plain hd hslash hplain),
        multiline_text, ih (by omega) htext, prepend_some, List.append_assoc]
      rfl

-- What continues an escape is no blank, so no line is folded.
lemma action_escape {escape after : Escape} {out : List Char}
    (h : escapeStep escape d = some (out, after)) :
    action quote escapes (.escape escape) d =
      .next out (if after = .none then .text else .escape after) := by
  cases escape with
  | none =>
    rw [action, h]
    · cases after <;> rfl
    · nofun
  | code left value =>
    rw [action, h]
    · cases after <;> rfl
    · nofun
  | begun =>
    have hblank : ¬(isBlank d = true ∨ d = '\n' ∨ d = '\r') := by
      intro hblank
      simp only [isBlank, Bool.or_eq_true, beq_iff_eq] at hblank
      obtain (rfl | rfl) | rfl | rfl := hblank <;> nomatch h
    rw [action, if_neg hblank, h]
    cases after <;> rfl

lemma multiline_yields {escape : Escape} {chars : List Char} (h : escape.Yields chars c)
    (rest : List Char) : multiline quote escapes (.escape escape) (chars ++ rest) =
      prepend [c] (multiline quote escapes .text rest) := by
  induction h with
  | last hlast =>
    rw [List.singleton_append, multiline_cons, action_escape hlast]
    rfl
  | next hnext hafter hchars ih =>
    rw [List.cons_append, multiline_cons, action_escape hnext, if_neg hafter]
    dsimp only
    rw [prepend_nil, ih]

lemma multiline_escape {quote : Char} (hquote : quote ≠ '\\') (hrun : run ≤ 2) {chars : List Char}
    (h : Escape.Yields .begun chars c) (rest : List Char) :
    multiline quote true (.quotes run) ('\\' :: chars ++ rest) =
      prepend (List.replicate run quote ++ [c]) (multiline quote true (.quotes 0) rest) := by
  have haction : textAction quote true '\\' = .next [] (.escape .begun) := by
    rw [textAction, if_neg hquote.symm]
    rfl
  rw [List.cons_append, multiline_other hrun hquote.symm haction, multiline_yields h,
    prepend_prepend, List.append_nil, multiline_text]

-- The writer counts as the reader does, and escapes a third quote mark.
lemma multiline_escapeFrom (hc : c ≠ '\x22') (hrun : run ≤ 2) (text rest : List Char) :
    multiline '\x22' true (.quotes run)
        (escapeFrom true run text ++ (List.replicate 3 '\x22' ++ c :: rest)) =
      some (List.replicate run '\x22' ++ text, c :: rest) := by
  induction text generalizing run with
  | nil => rw [escapeFrom, List.nil_append, multiline_close hrun hc, List.append_nil]
  | cons d text ih =>
    rw [escapeFrom]
    by_cases hd : d = '\x22'
    · subst hd
      rw [if_pos rfl]
      by_cases hthird : run = 2
      · have hyields : Escape.Yields .begun ['\x22'] '\x22' := .last rfl
        subst hthird
        change multiline '\x22' true (.quotes 2)
          ('\\' :: ['\x22'] ++ (escapeFrom true 0 text ++ _)) = _
        rw [multiline_escape (by decide) hrun hyields, ih (by omega), prepend_some,
          List.append_assoc]
        rfl
      · have hfew : (!true || run == 2) = false := by simpa using hthird
        rw [hfew, if_neg Bool.false_ne_true, List.cons_append, multiline_quote (by omega),
          ih (by omega), List.replicate_succ', List.append_assoc]
        rfl
    · rw [if_neg hd, List.append_assoc]
      obtain ⟨hself, hslash, hplain⟩ | ⟨chars, hchars, hyields⟩ := escapeChar_cases true d
      · have haction : textAction '\x22' true d = .next [d] .text :=
          textAction_plain hd (fun h => absurd h hslash) (hplain.imp_right And.right)
        rw [hself, List.singleton_append, multiline_other hrun hd haction, multiline_text,
          ih (by omega), prepend_some, List.append_assoc]
        rfl
      · rw [hchars, multiline_escape (by decide) hrun hyields, ih (by omega), prepend_some,
          List.append_assoc]
        rfl

end Lines

/-! ## The six forms -/

lemma longestRunFrom_eq_zero {mark : Char} {run : Nat} {text : List Char}
    (h : longestRunFrom mark run text = 0) : mark ∉ text := by
  induction text generalizing run with
  | nil => exact List.not_mem_nil
  | cons c text ih =>
    rw [longestRunFrom] at h
    by_cases hc : c = mark
    · rw [if_pos hc] at h
      have hle := le_longestRunFrom mark (run + 1) text
      omega
    · rw [if_neg hc] at h
      have htext : longestRunFrom mark 0 text = 0 := by omega
      exact List.not_mem_cons_of_ne_of_not_mem (Ne.symm hc) (ih htext)

/-- What a text must be like for a form to hold it. -/
def Form.Fits (text : List Char) : Form → Prop
  | .basic => ∀ c ∈ text, c ≠ '\x22' ∧ c ≠ '\\' ∧ isPlain c = true
  | .literal => ∀ c ∈ text, c ≠ '\x27' ∧ isPlain c = true
  | .multilineBasic => longestRun '\x22' text ≤ 2 ∧ ∀ c ∈ text, isCode c = false ∧ c ≠ '\\'
  | .multilineLiteral => longestRun '\x27' text ≤ 2 ∧ ∀ c ∈ text, isCode c = false
  | .escaped => True
  | .multilineEscaped => '\n' ∈ text

lemma fits_form (text : List Char) : (form text).Fits text := by
  have hcode (h : ¬text.any isCode = true) (c : Char) (hc : c ∈ text) : ¬isCode c = true :=
    fun hcode => h (List.any_eq_true.mpr ⟨c, hc, hcode⟩)
  have hplain (h : ¬text.any isCode = true) (hline : '\n' ∉ text) (c : Char) (hc : c ∈ text) :
      isPlain c = true :=
    isPlain_of_not_isCode (Bool.eq_false_iff.mpr (hcode h c hc)) fun heq => hline (heq ▸ hc)
  unfold form
  dsimp only
  split_ifs with h₁ h₂ h₃ h₄ h₅ <;>
    simp only [Bool.and_eq_true, Bool.not_eq_true', beq_iff_eq, decide_eq_true_eq,
      List.contains_iff_mem, Bool.eq_false_iff, ne_eq] at *
  · obtain ⟨⟨⟨hcodes, hslash⟩, hrun⟩, hline⟩ := h₁
    intro c hc
    exact ⟨fun h => longestRunFrom_eq_zero hrun (h ▸ hc), fun h => hslash (h ▸ hc),
      hplain hcodes hline c hc⟩
  · obtain ⟨⟨hcodes, hrun⟩, hline⟩ := h₂
    intro c hc
    exact ⟨fun h => longestRunFrom_eq_zero hrun (h ▸ hc), hplain hcodes hline c hc⟩
  · obtain ⟨⟨hcodes, hslash⟩, hrun⟩ := h₃
    exact ⟨hrun, fun c hc =>
      ⟨Bool.eq_false_iff.mpr (hcode hcodes c hc), fun h => hslash (h ▸ hc)⟩⟩
  · exact ⟨h₄.2, fun c hc => Bool.eq_false_iff.mpr (hcode h₄.1 c hc)⟩
  · exact h₅
  · exact trivial

lemma dropNewline_body {mark : Char} (hline : mark ≠ '\n') (hreturn : mark ≠ '\r')
    {text body : List Char} (h : '\n' ∉ text → ∀ c ∈ body, c ≠ '\n' ∧ c ≠ '\r')
    (rest : List Char) :
    dropNewline ((if text.contains '\n' then ['\n'] else []) ++ body ++ mark :: rest) =
      body ++ mark :: rest := by
  have hother {c : Char} (hline : c ≠ '\n') (hreturn : c ≠ '\r') (tail : List Char) :
      dropNewline (c :: tail) = c :: tail := by
    have hnone : newline? (c :: tail) = none := by
      unfold newline?
      split
      · rename_i h
        exact absurd (List.cons.inj h).1 hline
      · rename_i h
        exact absurd (List.cons.inj h).1 hreturn
      · rfl
    rw [dropNewline, hnone]
    rfl
  by_cases htext : '\n' ∈ text
  · rw [if_pos (List.contains_iff_mem.mpr htext)]
    rfl
  · rw [if_neg (by simpa using htext), List.nil_append]
    cases body with
    | nil => exact hother hline hreturn rest
    | cons c body =>
      obtain ⟨hc, hc'⟩ := h htext c List.mem_cons_self
      exact hother hc hc' _

/-- The line feed that the writer puts before a text with line feeds is dropped again, and no other
one is. -/
lemma string?_triple {mark : Char} {escapes : Bool}
    (hmark : mark = '\x22' ∧ escapes = true ∨ mark = '\x27' ∧ escapes = false)
    {text body : List Char} (h : '\n' ∉ text → ∀ c ∈ body, c ≠ '\n' ∧ c ≠ '\r')
    (rest : List Char) :
    string? (triple mark text body ++ rest) =
      multiline mark escapes (.quotes 0) (body ++ (List.replicate 3 mark ++ rest)) := by
  rw [triple, List.append_assoc _ (List.replicate 3 mark),
    List.append_assoc (List.replicate 3 mark), List.append_assoc (List.replicate 3 mark),
    ← multiline_text]
  obtain ⟨rfl, rfl⟩ | ⟨rfl, rfl⟩ := hmark
  · exact congrArg (multiline _ _ _) (dropNewline_body (by decide) (by decide) h _)
  · exact congrArg (multiline _ _ _) (dropNewline_body (by decide) (by decide) h _)

/-- A string is read as it was written, up to what follows it. -/
lemma string?_write (text : List Char) {c : Char} (hdouble : c ≠ '\x22') (hsingle : c ≠ '\x27')
    (rest : List Char) : string? (write text ++ c :: rest) = some (text, c :: rest) := by
  have hfits := fits_form text
  have hhead {mark : Char} (h : ∀ d ∈ text, d ≠ mark) : mark ∉ text.head? :=
    fun hsome => h mark (List.mem_of_head? hsome) rfl
  have hbreak (h : ∀ d ∈ text, isCode d = false) (hline : '\n' ∉ text) :
      ∀ d ∈ text, d ≠ '\n' ∧ d ≠ '\r' := by
    intro d hd
    refine ⟨fun heq => hline (heq ▸ hd), ?_⟩
    rintro rfl
    nomatch h _ hd
  have hplain (h : ∀ d ∈ text, isCode d = false) : ∀ d ∈ text, isPlain d = true ∨ d = '\n' :=
    fun d hd => (Decidable.em (d = '\n')).symm.imp_left (isPlain_of_not_isCode (h d hd))
  unfold write
  cases hform : form text with
  | basic =>
    rw [hform] at hfits
    dsimp only
    rw [string?_eq_lineString? (hhead fun d hd => (hfits d hd).1) hdouble]
    exact basic_of_plain hfits
  | literal =>
    rw [hform] at hfits
    dsimp only
    rw [string?_eq_lineString? (hhead fun d hd => (hfits d hd).1) hsingle]
    exact literal_of_plain hfits
  | escaped =>
    dsimp only
    rw [string?_eq_lineString? (head?_escapeFrom text) hdouble]
    exact basic_escapeFrom text _ 0
  | multilineBasic =>
    rw [hform] at hfits
    obtain ⟨hrun, htext⟩ := hfits
    have hcode : ∀ d ∈ text, isCode d = false := fun d hd => (htext d hd).1
    dsimp only
    rw [string?_triple (.inl ⟨rfl, rfl⟩) (hbreak hcode)]
    exact multiline_of_plain hdouble hrun fun d hd =>
      ⟨fun heq => absurd heq (htext d hd).2, hplain hcode d hd⟩
  | multilineLiteral =>
    rw [hform] at hfits
    obtain ⟨hrun, hcode⟩ := hfits
    dsimp only
    rw [string?_triple (.inr ⟨rfl, rfl⟩) (hbreak hcode)]
    exact multiline_of_plain hsingle hrun fun d hd => ⟨fun _ => rfl, hplain hcode d hd⟩
  | multilineEscaped =>
    rw [hform] at hfits
    dsimp only
    rw [string?_triple (.inl ⟨rfl, rfl⟩) (fun hline => absurd hfits hline)]
    exact multiline_escapeFrom hdouble (by omega) text rest

end Fieldbus.Toml
