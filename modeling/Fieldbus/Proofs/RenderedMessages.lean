import Fieldbus.Proofs.NamedAccess
import Fieldbus.Proofs.PrintedLines
import Fieldbus.Proofs.TypedFields

/-!
# What an operator sees of a message

A message is shown on one line for its kind and one for each field, whatever bytes its strings hold:
no value contains a line feed, since quoted text has a letter after a backslash for it. And no two
values of a field look the same: numbers can be read from their own text, and quoted text is told
apart escape by escape. So what is shown determines the kind and the values of all fields.
-/

namespace Fieldbus

namespace Text

/-! ## Quoted text -/

lemma hexNumber_eq (n : Nat) :
    hexNumber n =
      if n < 16 then [n.digitChar] else hexNumber (n / 16) ++ [(n % 16).digitChar] :=
  Nat.toDigits_eq_if (by decide)

lemma digitChar_mem_alphabet {n : Nat} (h : n < 16) : n.digitChar ∈ Hex.alphabet := by
  have hall : ∀ n : Fin 16, n.val.digitChar ∈ Hex.alphabet := by decide
  exact hall ⟨n, h⟩

lemma digitChar_injective {m n : Nat} (hm : m < 16) (hn : n < 16)
    (h : m.digitChar = n.digitChar) : m = n := by
  have hall : ∀ m n : Fin 16, m.val.digitChar = n.val.digitChar → m.val = n.val := by decide
  exact hall ⟨m, hm⟩ ⟨n, hn⟩ h

lemma mem_alphabet_of_mem_hexNumber {n : Nat} {c : Char} (h : c ∈ hexNumber n) :
    c ∈ Hex.alphabet := by
  induction n using Nat.strong_induction_on with
  | _ n ih =>
    rw [hexNumber_eq] at h
    split_ifs at h with hn
    · rw [List.mem_singleton.mp h]
      exact digitChar_mem_alphabet hn
    · obtain h | h := List.mem_append.mp h
      · exact ih (n / 16) (by omega) h
      · rw [List.mem_singleton.mp h]
        exact digitChar_mem_alphabet (by omega)

lemma hexNumber_injective {m n : Nat} (h : hexNumber m = hexNumber n) : m = n := by
  induction m using Nat.strong_induction_on generalizing n with
  | _ m ih =>
    rw [hexNumber_eq m, hexNumber_eq n] at h
    have hne (k : Nat) : hexNumber k ≠ [] := Nat.toDigits_ne_nil
    split_ifs at h with hm hn hn
    · exact digitChar_injective hm hn (List.singleton_inj.mp h)
    · exact absurd h (by simp [List.singleton_eq_append_iff, hne])
    · exact absurd h (by simp [List.append_eq_singleton_iff, hne])
    · obtain ⟨hfront, hlast⟩ := List.append_inj' h rfl
      have hdiv := ih (m / 16) (by omega) hfront
      have hmod := digitChar_injective (by omega) (by omega) (List.singleton_inj.mp hlast)
      omega

def letters : List (Char × Char) :=
  [('0', '\x00'), ('t', '\t'), ('r', '\r'), ('n', '\n'), ('\\', '\\'), ('\x22', '\x22')]

lemma ne_of_lookup_letters {letter c : Char} (h : letters.lookup letter = some c) :
    letter ≠ 'u' ∧ letter ≠ '\n' := by
  have hnone : letters.lookup 'u' = none ∧ letters.lookup '\n' = none := by decide
  refine ⟨?_, ?_⟩
  · rintro rfl
    simp [hnone.1] at h
  · rintro rfl
    simp [hnone.2] at h

inductive Escaped : Char → List Char → Prop where
  | plain {c : Char} (hline : c ≠ '\n') (hslash : c ≠ '\\') (hmark : c ≠ '\x22') :
      Escaped c [c]
  | letter {letter c : Char} (h : letters.lookup letter = some c) : Escaped c ['\\', letter]
  | number (c : Char) : Escaped c ('\\' :: 'u' :: '\x7b' :: (hexNumber c.toNat ++ ['\x7d']))

lemma escaped_escape (c : Char) : Escaped c (escape '\x22' c) := by
  unfold escape
  split_ifs with h0 ht hr hn hself hhidden
  · subst h0
    exact .letter rfl
  · subst ht
    exact .letter rfl
  · subst hr
    exact .letter rfl
  · subst hn
    exact .letter rfl
  · obtain rfl | rfl := hself
    · exact .letter rfl
    · exact .letter rfl
  · exact .number c
  · obtain ⟨hslash, hmark⟩ := not_or.mp hself
    exact .plain hn hslash hmark

namespace Escaped

variable {c d : Char} {s t : List Char}

lemma append_ne (h : Escaped c s) (rest after : List Char) : s ++ rest ≠ '\x22' :: after := by
  intro heq
  cases h with
  | plain _ _ hmark => exact hmark (List.cons.inj heq).1
  | letter => exact absurd (List.cons.inj heq).1 (by decide)
  | number => exact absurd (List.cons.inj heq).1 (by decide)

lemma not_mem (h : Escaped c s) : '\n' ∉ s := by
  cases h with
  | plain hline => simpa using Ne.symm hline
  | letter h => simpa using (ne_of_lookup_letters h).2.symm
  | number =>
    have hdigits : '\n' ∉ hexNumber c.toNat := fun h =>
      absurd (mem_alphabet_of_mem_hexNumber h) (by decide)
    simpa using hdigits

/-- An escape ends where it must, so that what follows can be told from it. -/
lemma append_inj (hc : Escaped c s) (hd : Escaped d t) {rest rest' : List Char}
    (h : s ++ rest = t ++ rest') : c = d ∧ rest = rest' := by
  cases hc with
  | plain _ hslash _ =>
    cases hd with
    | plain => simpa using h
    | letter => exact absurd (List.cons.inj h).1 hslash
    | number => exact absurd (List.cons.inj h).1 hslash
  | letter hc =>
    cases hd with
    | plain _ hslash _ => exact absurd (List.cons.inj h).1.symm hslash
    | letter hd =>
      simp only [List.cons_append, List.nil_append, List.cons.injEq, true_and] at h
      obtain ⟨rfl, hrest⟩ := h
      exact ⟨Option.some.inj (hc.symm.trans hd), hrest⟩
    | number =>
      exact absurd (List.cons.inj (List.cons.inj h).2).1 (ne_of_lookup_letters hc).1
  | number =>
    cases hd with
    | plain _ hslash _ => exact absurd (List.cons.inj h).1.symm hslash
    | letter hd =>
      exact absurd (List.cons.inj (List.cons.inj h).2).1.symm (ne_of_lookup_letters hd).1
    | number =>
      -- Numbers have any length, but the brace that ends them is no digit.
      have hbrace (n : Nat) : '\x7d' ∉ hexNumber n := fun h =>
        absurd (mem_alphabet_of_mem_hexNumber h) (by decide)
      simp only [List.cons_append, List.append_assoc, List.nil_append, List.cons.injEq,
        true_and] at h
      have hsplit := congrArg (split '\x7d') h
      rw [split_append (hbrace _), split_append (hbrace _)] at hsplit
      have hnumber := (List.cons.inj hsplit).1
      rw [hnumber] at h
      exact ⟨Char.toNat_inj.mp (hexNumber_injective hnumber),
        (List.cons.inj (List.append_cancel_left h)).2⟩

end Escaped

lemma not_mem_quote (text : List Char) : '\n' ∉ quote text := by
  have hflat : '\n' ∉ text.flatMap (escape '\x22') := by
    rw [List.mem_flatMap]
    rintro ⟨c, _, hc⟩
    exact (escaped_escape c).not_mem hc
  simpa [quote] using hflat

/-- Quoted text ends at the first mark that is not escaped. -/
lemma quote_append_inj {s t rest rest' : List Char} (h : quote s ++ rest = quote t ++ rest') :
    s = t ∧ rest = rest' := by
  simp only [quote, List.cons_append, List.append_assoc, List.nil_append, List.cons.injEq,
    true_and] at h
  induction s generalizing t with
  | nil =>
    cases t with
    | nil => exact ⟨rfl, (List.cons.inj h).2⟩
    | cons d t =>
      rw [List.flatMap_cons, List.append_assoc] at h
      exact absurd h.symm ((escaped_escape d).append_ne _ _)
  | cons c s ih =>
    rw [List.flatMap_cons, List.append_assoc] at h
    cases t with
    | nil => exact absurd h ((escaped_escape c).append_ne _ _)
    | cons d t =>
      rw [List.flatMap_cons, List.append_assoc] at h
      obtain ⟨rfl, htail⟩ := (escaped_escape c).append_inj (escaped_escape d) h
      obtain ⟨rfl, hrest⟩ := ih htail
      exact ⟨rfl, hrest⟩

lemma quote_injective {s t : List Char} (h : quote s = quote t) : s = t :=
  (quote_append_inj (congrArg (· ++ []) h)).1

/-! ## Numbers -/

lemma writeInteger_injective {m n : Int} (h : writeInteger m = writeInteger n) : m = n := by
  -- A reader whose range holds both numbers reads each from its text.
  have hm : readInteger (min m (min n (-1))) (max m (max n 0)) (writeInteger m) = .ok m :=
    readInteger_writeInteger (by omega) (by omega) (by omega) (by omega)
  have hn : readInteger (min m (min n (-1))) (max m (max n 0)) (writeInteger n) = .ok n :=
    readInteger_writeInteger (by omega) (by omega) (by omega) (by omega)
  rw [h, hn] at hm
  exact (Except.ok.inj hm).symm

end Text

lemma Binary32.text_injective {x y : Binary32} (hx : x.isFinite = true) (hy : y.isFinite = true)
    (h : x.text .plain = y.text .plain) : x = y := by
  have hread := read_text .plain hx
  rw [h, read_text .plain hy] at hread
  exact (Except.ok.inj hread).symm

namespace FieldType

variable {type : FieldType}

lemma not_mem_display {cell : type.Cell} (h : type.InRange cell) :
    '\n' ∉ (type.value cell).display.toList := by
  have hnumber : '\n' ∉ Binary32.marks := by decide
  have hint (n : Int) : '\n' ∉ (FieldValue.int n).display.toList := by
    rw [FieldValue.display, Text.decimal, String.toList_ofList]
    exact fun hmem => hnumber (Text.writeInteger_subset_marks n hmem)
  cases type with
  | int8 | int16 | uint8 => exact hint _
  | float32 =>
    change '\n' ∉ (String.ofList (Binary32.text .plain cell)).toList
    rw [String.toList_ofList]
    exact fun hmem => hnumber (Binary32.text_subset_marks .plain cell hmem)
  | chars =>
    rw [value, FieldValue.display, String.toList_ofList]
    exact Text.not_mem_quote _

lemma value_eq_of_display_eq {cell other : type.Cell} (h : type.InRange cell)
    (hother : type.InRange other)
    (hdisplay : (type.value cell).display = (type.value other).display) :
    type.value cell = type.value other := by
  have hint {m n : Int} (h : (FieldValue.int m).display = (FieldValue.int n).display) :
      FieldValue.int m = .int n :=
    congrArg FieldValue.int (Text.writeInteger_injective (String.ofList_injective h))
  cases type with
  | int8 | int16 | uint8 => exact hint hdisplay
  | float32 =>
    exact congrArg FieldValue.float
      (Binary32.text_injective h.2 hother.2 (String.ofList_injective hdisplay))
  | chars =>
    have htext := Text.quote_injective (String.ofList_injective hdisplay)
    exact congrArg FieldValue.chars (String.toList_injective htext)

end FieldType

/-! ## Messages -/

lemma Slot.getElem?_all {fields : List Field} (slot : Slot fields) :
    (all fields)[slot.index]? = some slot := by
  induction slot with
  | here => rfl
  | there slot ih =>
    rw [all, index, List.getElem?_cons_succ, List.getElem?_map, ih, Option.map_some]

namespace Kind

lemma heading_injective {k₁ k₂ : Kind} (h : k₁.heading = k₂.heading) : k₁ = k₂ := by
  revert h
  cases k₁ <;> cases k₂ <;> decide

lemma nameWidth_greatest (kind : Kind) :
    (∀ field ∈ kind.fields, field.name.length ≤ Field.nameWidth kind.fields) ∧
      ∃ field ∈ kind.fields, field.name.length = Field.nameWidth kind.fields := by
  cases kind <;> decide

end Kind

namespace Message

def row (width : Nat) (name : String) (value : FieldValue) : String :=
  "  " ++ name ++ String.ofList (List.replicate (width - name.length) ' ') ++ "  " ++ value.display

lemma toList_render (message : Message) :
    message.render.toList = message.kind.heading.toList ++ (message.fields.map fun field =>
      (row (Field.nameWidth message.kind.fields) field.1 field.2).toList).flatMap ('\n' :: ·) := by
  unfold render
  -- The heading is what the lines are appended to, and grows by each of them.
  generalize message.kind.heading = text
  induction message.fields generalizing text with
  | nil => simp
  | cons field fields ih =>
    rw [List.foldl_cons, ih]
    simp [row, Text.pad_eq]

lemma lines_render {message : Message} (h : message.InRange) :
    Text.lines message.render = message.kind.heading :: (Slot.all message.kind.fields).map
      fun slot => row (Field.nameWidth message.kind.fields) slot.field.name
        (message.record.valueAt slot) := by
  have hrow (slot : Slot message.kind.fields) : '\n' ∉
      (row (Field.nameWidth message.kind.fields) slot.field.name
        (message.record.valueAt slot)).toList := by
    have hname : '\n' ∉ slot.field.name.toList := fun hmem =>
      absurd ((message.kind.plain_names slot).2 _ hmem).2 (by decide)
    have hvalue : '\n' ∉ (message.record.valueAt slot).display.toList :=
      FieldType.not_mem_display (h slot)
    simp [row, hname, hvalue]
  rw [Text.lines, toList_render, fields, Record.values_eq, List.map_map,
    Text.split_flatMap (Json.not_mem_of_isPlain message.kind.isPlain_heading)]
  · simp [Function.comp_def, String.ofList_toList]
  · intro row hmem
    obtain ⟨slot, _, rfl⟩ := List.mem_map.mp hmem
    exact hrow slot

/-- The lines that show a message: a heading, then for each field its name, as wide as the longest
name, and its value. -/
structure Shown (message : Message) (lines : List String) : Prop where
  length : lines.length = 1 + message.kind.fields.length
  heading : lines[0]? = some message.kind.heading
  rows : ∃ width, (∀ field ∈ message.kind.fields, field.name.length ≤ width) ∧
    (∃ field ∈ message.kind.fields, field.name.length = width) ∧
    ∀ slot : Slot message.kind.fields,
      lines[slot.index + 1]? = some (row width slot.field.name (message.record.valueAt slot))

lemma shown_lines_render {message : Message} (h : message.InRange) :
    message.Shown (Text.lines message.render) := by
  obtain ⟨hle, heq⟩ := message.kind.nameWidth_greatest
  rw [lines_render h]
  refine ⟨?_, rfl, _, hle, heq, fun slot => ?_⟩
  · have hlength := congrArg List.length (Slot.map_field_all message.kind.fields)
    rw [List.length_map] at hlength
    rw [List.length_cons, List.length_map, hlength, Nat.add_comm]
  · rw [List.getElem?_cons_succ, List.getElem?_map, slot.getElem?_all, Option.map_some]

lemma row_injective {width : Nat} {name : String} {v w : FieldValue}
    (h : row width name v = row width name w) : v.display = w.display :=
  String.append_right_inj _ |>.mp h

lemma fields_eq_of_render_eq {m₁ m₂ : Message} (h₁ : m₁.InRange) (h₂ : m₂.InRange)
    (h : m₁.render = m₂.render) : m₁.kind = m₂.kind ∧ m₁.fields = m₂.fields := by
  have hlines := congrArg Text.lines h
  rw [lines_render h₁, lines_render h₂] at hlines
  obtain ⟨hheading, hrows⟩ := List.cons.inj hlines
  obtain ⟨kind, r₁⟩ := m₁
  obtain ⟨kind₂, r₂⟩ := m₂
  obtain rfl : kind = kind₂ := Kind.heading_injective hheading
  refine ⟨rfl, ?_⟩
  rw [fields, fields, Record.values_eq, Record.values_eq]
  refine List.map_congr_left fun slot hslot => ?_
  have hdisplay := row_injective (List.map_inj_left.mp hrows slot hslot)
  exact congrArg _ (FieldType.value_eq_of_display_eq (h₁ slot) (h₂ slot) hdisplay)

lemma render_eq_of_fields_eq {m₁ m₂ : Message} (hkind : m₁.kind = m₂.kind)
    (hfields : m₁.fields = m₂.fields) : m₁.render = m₂.render := by
  rw [render, render, hkind, hfields]

/-- Whatever is stored in a message, it is shown on as many lines as it has fields and one more, and
two messages are shown alike exactly if they are of one kind with the same values, bit by bit. -/
theorem render_shows_fields {m₁ m₂ : Message} (h₁ : m₁.Reachable) (h₂ : m₂.Reachable) :
    m₁.Shown (Text.lines m₁.render) ∧
      (m₁.render = m₂.render ↔ m₁.kind = m₂.kind ∧ m₁.fields = m₂.fields) := by
  refine ⟨shown_lines_render h₁.inRange, fields_eq_of_render_eq h₁.inRange h₂.inRange, ?_⟩
  rintro ⟨hkind, hfields⟩
  exact render_eq_of_fields_eq hkind hfields

/-- A quote and a line feed do not end the line, and a stray byte looks like the replacement
character that is read for it. -/
theorem render_shows_fields_stray_byte :
    let stray := (fresh .interMcuProut).run
      [.put "odeur" (.bytes [0x22, 0x0A, 0x20, 0x5C, 0x1B, 0xFF])]
    let plain := (fresh .interMcuProut).run
      [.put "odeur" (.bytes [0x22, 0x0A, 0x20, 0x5C, 0x1B, 0xEF, 0xBF, 0xBD])]
    stray.Reachable ∧ plain.Reachable ∧ stray.body ≠ plain.body ∧
      stray.Shown (Text.lines stray.render) ∧
      (Text.lines stray.render)[1]? =
        some "  odeur  \x22\\\x22\\n \\\\\\u\x7b1b\x7d\uFFFD\x22" ∧
      stray.render = plain.render := by
  intro stray plain
  have hstray : stray.Reachable := ⟨_, _, rfl⟩
  have hplain : plain.Reachable := ⟨_, _, rfl⟩
  obtain ⟨hshown, hrender⟩ := render_shows_fields hstray hplain
  exact ⟨hstray, hplain, by decide, hshown, by decide +kernel, hrender.mpr ⟨rfl, by decide⟩⟩

end Message

end Fieldbus
