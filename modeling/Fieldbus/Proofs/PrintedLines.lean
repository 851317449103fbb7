import Fieldbus.Message.Kind
import Fieldbus.Proofs.HexText
import Fieldbus.Proofs.NumberText
import Mathlib.Data.List.Forall2

/-!
# What is printed, line by line

The format of an indented document can be said without levels. A scalar is one line; what is between
two brackets stands on lines of its own, indented by two columns as a block, and a comma ends each
part but the last. The printer keeps a level instead, and writes every line break itself. Both give
the same lines, since no line of a document contains a line feed: quoted text has a letter after a
backslash for it.
-/

namespace Fieldbus

/-! ## Lines of a text -/

namespace Text

section Split

variable {mark : Char}

lemma split_of_not_mem {text : List Char} (h : mark ∉ text) : split mark text = [text] := by
  induction text with
  | nil => rfl
  | cons c rest ih =>
    have hc : c ≠ mark := (List.ne_of_not_mem_cons h).symm
    rw [split, if_neg hc, ih (List.not_mem_of_not_mem_cons h)]

lemma split_append {front : List Char} (h : mark ∉ front) (rest : List Char) :
    split mark (front ++ mark :: rest) = front :: split mark rest := by
  induction front with
  | nil => rw [List.nil_append, split, if_pos rfl]
  | cons c front ih =>
    have hc : c ≠ mark := (List.ne_of_not_mem_cons h).symm
    rw [List.cons_append, split, if_neg hc, ih (List.not_mem_of_not_mem_cons h)]

lemma split_flatMap {head : List Char} (hhead : mark ∉ head) {rows : List (List Char)}
    (hrows : ∀ row ∈ rows, mark ∉ row) :
    split mark (head ++ rows.flatMap (mark :: ·)) = head :: rows := by
  induction rows generalizing head with
  | nil => rw [List.flatMap_nil, List.append_nil, split_of_not_mem hhead]
  | cons row rows ih =>
    obtain ⟨hrow, hrows⟩ := List.forall_mem_cons.mp hrows
    rw [List.flatMap_cons, List.cons_append, split_append hhead, ih hrow hrows]

lemma split_ended {rows : List (List Char)} (hrows : ∀ row ∈ rows, mark ∉ row) {last : List Char}
    (hlast : mark ∉ last) :
    split mark (rows.flatMap (· ++ [mark]) ++ last) = rows ++ [last] := by
  induction rows with
  | nil => exact split_of_not_mem hlast
  | cons row rows ih =>
    obtain ⟨hrow, hrows⟩ := List.forall_mem_cons.mp hrows
    rw [List.flatMap_cons, List.append_assoc, List.append_assoc, List.singleton_append,
      split_append hrow, ih hrows, List.cons_append]

end Split

lemma lines_append_join {line : String} {rest : List String}
    (h : ∀ text ∈ line :: rest, '\n' ∉ text.toList) :
    lines (line ++ String.join (rest.map ("\n" ++ ·))) = line :: rest := by
  obtain ⟨hline, hrest⟩ := List.forall_mem_cons.mp h
  have htext : (line ++ String.join (rest.map ("\n" ++ ·))).toList =
      line.toList ++ (rest.map String.toList).flatMap ('\n' :: ·) := by
    simp [String.toList_join, List.flatMap_map]
  rw [lines, htext, split_flatMap hline]
  · simp [String.ofList_toList]
  · intro row hrow
    obtain ⟨text, htext, rfl⟩ := List.mem_map.mp hrow
    exact hrest text htext

lemma lines_trimEnd {rows : List String} {last : String} {front : List Char} {c : Char}
    (h : ∀ text ∈ rows ++ [last], '\n' ∉ text.toList) (hlast : last.toList = front ++ [c])
    (hc : isBlank c = false) :
    lines (String.ofList (trimEnd ((rows ++ [last]).flatMap fun text => text.toList ++ ['\n']))) =
      rows ++ [last] := by
  have htrim (text : List Char) : trimEnd (text ++ [c] ++ ['\n']) = text ++ [c] := by
    have hbreak : isBlank '\n' = true := by decide
    simp [trimEnd, hc, hbreak]
  have htext : trimEnd ((rows ++ [last]).flatMap fun text => text.toList ++ ['\n']) =
      (rows.map String.toList).flatMap (· ++ ['\n']) ++ last.toList := by
    rw [List.flatMap_append, List.flatMap_singleton, hlast, ← List.append_assoc,
      ← List.append_assoc, htrim, List.flatMap_map, List.append_assoc]
  have hrows : ∀ row ∈ rows.map String.toList, '\n' ∉ row :=
    List.forall_mem_map.mpr fun text htext => h text (List.mem_append_left _ htext)
  have hbreak : '\n' ∉ last.toList := h last (by simp)
  rw [lines, String.toList_ofList, htext, split_ended hrows hbreak]
  simp [String.ofList_toList]

lemma toList_pushn (c : Char) (n : Nat) : ("".pushn c n).toList = List.replicate n c := by
  induction n with
  | zero => rfl
  | succ n ih =>
    rw [String.pushn_eq_repeat_push, Nat.repeat, ← String.pushn_eq_repeat_push,
      String.toList_push, ih, List.replicate_succ']

lemma pad_eq (width : Nat) (text : String) :
    pad width text = text ++ String.ofList (List.replicate (width - text.length) ' ') := by
  rw [pad, ← toList_pushn, String.ofList_toList]

end Text

namespace Json

/-! ## The format -/

def comma : List String → List String
  | [] => []
  | [line] => [line ++ ","]
  | line :: lines => line :: comma lines

/-- Parts one after another, with a comma after each but the last. -/
def joined : List (List String) → List String
  | [] => []
  | [part] => part
  | part :: parts => comma part ++ joined parts

/-- Parts between two brackets, indented by two columns. -/
def block (opening closing : String) (parts : List (List String)) : List String :=
  opening :: (joined parts).map ("  " ++ ·) ++ [closing]

def labelled (label : String) : List String → List String
  | [] => []
  | line :: lines => (label ++ line) :: lines

/-- The lines of a value after its name, which is written as it is. -/
def member (name : String) (lines : List String) : List String :=
  labelled ("\x22" ++ name ++ "\x22: ") lines

mutual

def lines : Json → List String
  | .arr (item :: items) => block "[" "]" (itemLines (item :: items))
  | .obj (member :: members) => block "\x7b" "\x7d" (memberLines (member :: members))
  | value => [value.scalarText]

def itemLines : List Json → List (List String)
  | [] => []
  | item :: items => item.lines :: itemLines items

def memberLines : List (String × Json) → List (List String)
  | [] => []
  | (name, value) :: members => labelled (quote name ++ ": ") value.lines :: memberLines members

end

lemma lines_int (n : Int) : (int n).lines = [Text.decimal n] := rfl

lemma lines_str (text : String) : (str text).lines = [quote text] := rfl

lemma itemLines_eq (items : List Json) : itemLines items = items.map lines := by
  induction items with
  | nil => rfl
  | cons item items ih => rw [itemLines, ih, List.map_cons]

lemma memberLines_eq (members : List (String × Json)) :
    memberLines members =
      members.map fun member => labelled (quote member.1 ++ ": ") member.2.lines := by
  induction members with
  | nil => rfl
  | cons member members ih => rw [memberLines, ih, List.map_cons]

lemma lines_arr {items : List Json} (h : items ≠ []) :
    (arr items).lines = block "[" "]" (items.map lines) := by
  obtain ⟨item, items, rfl⟩ := List.exists_cons_of_ne_nil h
  rw [lines, itemLines_eq]

lemma lines_obj {members : List (String × Json)} (h : members ≠ []) :
    (obj members).lines = block "\x7b" "\x7d"
      (members.map fun member => labelled (quote member.1 ++ ": ") member.2.lines) := by
  obtain ⟨member, members, rfl⟩ := List.exists_cons_of_ne_nil h
  rw [lines, memberLines_eq]

/-- What holds of scalars, and of arrays and objects if it holds of their parts, holds of every
document. Arrays and objects without parts are printed like scalars. -/
lemma forall_of_parts {motive : Json → Prop}
    (scalar : ∀ value : Json, value.lines = [value.scalarText] →
      (∀ level, value.prettyAt level = value.scalarText) → motive value)
    (arr : ∀ item items, (∀ value ∈ item :: items, motive value) → motive (.arr (item :: items)))
    (obj : ∀ member members, (∀ pair ∈ member :: members, motive pair.2) →
      motive (.obj (member :: members))) (value : Json) : motive value := by
  refine @Json.rec motive (fun items => ∀ value ∈ items, motive value)
    (fun members => ∀ pair ∈ members, motive pair.2) (fun pair => motive pair.2)
    ?_ ?_ ?_ ?_ ?_ ?_ ?_ ?_ ?_ ?_ ?_ ?_ value
  · exact scalar .null rfl fun _ => rfl
  · exact fun b => scalar (.bool b) rfl fun _ => rfl
  · exact fun n => scalar (.int n) rfl fun _ => rfl
  · exact fun x => scalar (.float x) rfl fun _ => rfl
  · exact fun text => scalar (.str text) rfl fun _ => rfl
  · intro items ih
    cases items with
    | nil => exact scalar (.arr []) rfl fun _ => rfl
    | cons item items => exact arr item items ih
  · intro members ih
    cases members with
    | nil => exact scalar (.obj []) rfl fun _ => rfl
    | cons member members => exact obj member members ih
  · exact fun _ h => absurd h List.not_mem_nil
  · exact fun _ _ hhead htail => List.forall_mem_cons.mpr ⟨hhead, htail⟩
  · exact fun _ h => absurd h List.not_mem_nil
  · exact fun _ _ hhead htail => List.forall_mem_cons.mpr ⟨hhead, htail⟩
  · exact fun _ _ h => h

/-! ## The printer -/

def spread (level : Nat) (lines : List String) : String :=
  String.join (lines.map (newline level ++ ·))

/-- Lines one after another, the first where the text stands, the others indented by a level. -/
def hang (level : Nat) : List String → String
  | [] => ""
  | line :: lines => line ++ spread level lines

section Spread

variable {level : Nat} {lines : List String}

lemma newline_hang (h : lines ≠ []) : newline level ++ hang level lines = spread level lines := by
  obtain ⟨line, lines, rfl⟩ := List.exists_cons_of_ne_nil h
  simp only [hang, spread, List.map_cons, String.join_cons, String.append_assoc]

lemma spread_comma (h : lines ≠ []) : spread level (comma lines) = spread level lines ++ "," := by
  induction lines with
  | nil => exact absurd rfl h
  | cons line rest ih =>
    cases rest with
    | nil => simp [comma, spread, String.append_assoc]
    | cons next rest =>
      have hrest := ih (by simp)
      simp only [spread, comma, List.map_cons, String.join_cons, String.append_assoc] at hrest ⊢
      rw [hrest]

lemma spread_joined {parts : List (List String)} (h : ∀ part ∈ parts, part ≠ []) :
    spread level (joined parts) = ",".intercalate (parts.map (spread level)) := by
  induction parts with
  | nil => rfl
  | cons part parts ih =>
    obtain ⟨hpart, hparts⟩ := List.forall_mem_cons.mp h
    cases parts with
    | nil => simp [joined]
    | cons next parts =>
      have happend : spread level (comma part ++ joined (next :: parts)) =
          spread level (comma part) ++ spread level (joined (next :: parts)) := by
        simp only [spread, List.map_append, String.join_append]
      have hjoined : joined (part :: next :: parts) = comma part ++ joined (next :: parts) := rfl
      rw [hjoined, happend, spread_comma hpart, ih hparts]
      exact String.intercalate_cons_cons.symm

lemma newline_succ (level : Nat) : newline (level + 1) = newline level ++ "  " := by
  apply String.toList_injective
  simp only [newline, String.toList_append, Text.toList_pushn, List.append_assoc]
  rw [Nat.mul_succ, ← List.replicate_append_replicate]
  rfl

lemma hang_block (opening closing : String) (parts : List (List String)) :
    hang level (block opening closing parts) =
      opening ++ spread (level + 1) (joined parts) ++ newline level ++ closing := by
  have hindent : spread level ((joined parts).map ("  " ++ ·)) =
      spread (level + 1) (joined parts) := by
    simp only [spread, List.map_map, Function.comp_def, newline_succ, String.append_assoc]
  have happend : hang level (block opening closing parts) =
      opening ++ (spread level ((joined parts).map ("  " ++ ·)) ++ spread level [closing]) := by
    simp only [block, hang, spread, List.cons_append, List.map_append, String.join_append]
  rw [happend, hindent]
  simp [spread, String.append_assoc]

lemma hang_labelled (label : String) (h : lines ≠ []) :
    hang level (labelled label lines) = label ++ hang level lines := by
  obtain ⟨line, lines, rfl⟩ := List.exists_cons_of_ne_nil h
  rw [labelled, hang, hang, String.append_assoc]

lemma labelled_ne_nil {label : String} (h : lines ≠ []) : labelled label lines ≠ [] := by
  obtain ⟨line, lines, rfl⟩ := List.exists_cons_of_ne_nil h
  simp [labelled]

end Spread

lemma lines_ne_nil (value : Json) : value.lines ≠ [] := by
  induction value using forall_of_parts with
  | scalar value hlines => simp [hlines]
  | arr => simp [lines, block]
  | obj => simp [lines, block]

lemma prettyItems_eq {level : Nat} {items : List Json}
    (h : ∀ value ∈ items, value.prettyAt level = hang level value.lines) :
    prettyItems level items = (itemLines items).map (spread level) := by
  induction items with
  | nil => rfl
  | cons item items ih =>
    obtain ⟨hitem, hitems⟩ := List.forall_mem_cons.mp h
    rw [prettyItems, itemLines, List.map_cons, ih hitems, hitem, newline_hang item.lines_ne_nil]

lemma prettyMembers_eq {level : Nat} {members : List (String × Json)}
    (h : ∀ pair ∈ members, pair.2.prettyAt level = hang level pair.2.lines) :
    prettyMembers level members = (memberLines members).map (spread level) := by
  induction members with
  | nil => rfl
  | cons member members ih =>
    obtain ⟨hmember, hmembers⟩ := List.forall_mem_cons.mp h
    have hne := member.2.lines_ne_nil
    rw [prettyMembers, memberLines, List.map_cons, ih hmembers, hmember,
      ← newline_hang (labelled_ne_nil hne), hang_labelled _ hne]
    simp only [String.append_assoc]

/-- At every level the printer writes the lines of the document, all but the first indented. -/
lemma prettyAt_eq (value : Json) (level : Nat) :
    value.prettyAt level = hang level value.lines := by
  induction value using forall_of_parts generalizing level with
  | scalar value hlines hpretty =>
    rw [hlines, hpretty, hang, spread, List.map_nil, String.join_nil, String.append_empty]
  | arr item items ih =>
    have hparts : ∀ part ∈ itemLines (item :: items), part ≠ [] := by
      rw [itemLines_eq]
      exact List.forall_mem_map.mpr fun value _ => value.lines_ne_nil
    rw [prettyAt, lines, hang_block, spread_joined hparts,
      prettyItems_eq fun value hvalue => ih value hvalue (level + 1)]
  | obj member members ih =>
    have hparts : ∀ part ∈ memberLines (member :: members), part ≠ [] := by
      rw [memberLines_eq]
      exact List.forall_mem_map.mpr fun pair _ => labelled_ne_nil pair.2.lines_ne_nil
    rw [prettyAt, lines, hang_block, spread_joined hparts,
      prettyMembers_eq fun pair hpair => ih pair hpair (level + 1)]

/-! ## Quoted text -/

def isPlain (c : Char) : Bool := 0x20 ≤ c.toNat && c != '\x22' && c != '\\'

def letters : List (Char × Char) :=
  [('\x22', '\x22'), ('\\', '\\'), ('b', '\x08'), ('f', '\x0c'), ('n', '\n'), ('r', '\r'),
    ('t', '\t')]

inductive Escaped : Char → List Char → Prop where
  | plain {c : Char} (h : isPlain c = true) : Escaped c [c]
  | letter {letter c : Char} (h : letters.lookup letter = some c) : Escaped c ['\\', letter]
  | number {c : Char} (h : c.toNat < 0x20) :
      Escaped c ['\\', 'u', '0', '0', (c.toNat / 16).digitChar, (c.toNat % 16).digitChar]

def Quoted (text written : List Char) : Prop :=
  ∃ parts, List.Forall₂ Escaped text parts ∧ written = '\x22' :: (parts.flatten ++ ['\x22'])

lemma escaped_escape (c : Char) : Escaped c (escape c) := by
  unfold escape
  split_ifs with hquote hslash hb hf hn hr ht hcontrol
  · subst hquote
    exact .letter rfl
  · subst hslash
    exact .letter rfl
  · subst hb
    exact .letter rfl
  · subst hf
    exact .letter rfl
  · subst hn
    exact .letter rfl
  · subst hr
    exact .letter rfl
  · subst ht
    exact .letter rfl
  · have hdigit : ∀ n : Fin 16, Hex.digit false n = n.val.digitChar := by decide
    have hbyte : (UInt8.ofNat c.toNat).toNat = c.toNat := by
      rw [UInt8.toNat_ofNat']
      omega
    have hpair : Hex.pair false (UInt8.ofNat c.toNat) =
        [(c.toNat / 16).digitChar, (c.toNat % 16).digitChar] := by
      rw [Hex.pair, hbyte, ← hdigit ⟨c.toNat / 16, by omega⟩, ← hdigit ⟨c.toNat % 16, by omega⟩]
    rw [hpair]
    exact .number hcontrol
  · exact .plain (by simp [isPlain, hquote, hslash]; omega)

lemma quoted_quote (text : String) : Quoted text.toList (quote text).toList := by
  refine ⟨text.toList.map escape, ?_, ?_⟩
  · rw [List.forall₂_map_right_iff]
    exact List.forall₂_same.mpr fun c _ => escaped_escape c
  · rw [quote, String.toList_ofList, List.flatMap_def, List.cons_append]

lemma Escaped.not_mem {c : Char} {written : List Char} (h : Escaped c written) :
    '\n' ∉ written := by
  cases h with
  | plain h =>
    rw [List.mem_singleton]
    rintro rfl
    simp [isPlain] at h
  | @letter letter _ h =>
    have hnone : letters.lookup '\n' = none := by decide
    simp only [List.mem_cons, List.not_mem_nil, or_false, not_or]
    refine ⟨by decide, ?_⟩
    rintro rfl
    simp [hnone] at h
  | number h =>
    have hdigit : ∀ n : Fin 16, '\n' ≠ n.val.digitChar := by decide
    simp only [List.mem_cons, List.not_mem_nil, or_false, not_or]
    exact ⟨by decide, by decide, by decide, by decide, hdigit ⟨_, by omega⟩,
      hdigit ⟨_, by omega⟩⟩

lemma not_mem_quote (text : String) : '\n' ∉ (quote text).toList := by
  have hflat : '\n' ∉ text.toList.flatMap escape := by
    rw [List.mem_flatMap]
    rintro ⟨c, _, hc⟩
    exact (escaped_escape c).not_mem hc
  simpa [quote] using hflat

lemma escape_of_isPlain {c : Char} (h : isPlain c = true) : escape c = [c] := by
  simp only [isPlain, Bool.and_eq_true, decide_eq_true_eq, bne_iff_ne, ne_eq] at h
  obtain ⟨⟨hcode, hquote⟩, hslash⟩ := h
  have hcontrol {d : Char} (hd : d.toNat < 0x20) : c ≠ d := by
    rintro rfl
    omega
  rw [escape, if_neg hquote, if_neg hslash, if_neg (hcontrol (by decide)),
    if_neg (hcontrol (by decide)), if_neg (hcontrol (by decide)), if_neg (hcontrol (by decide)),
    if_neg (hcontrol (by decide)), if_neg (by omega)]

lemma quote_eq {text : String} (h : text.toList.all isPlain = true) :
    quote text = "\x22" ++ text ++ "\x22" := by
  have hescape {chars : List Char} (hchars : ∀ c ∈ chars, isPlain c = true) :
      chars.flatMap escape = chars := by
    induction chars with
    | nil => rfl
    | cons c rest ih =>
      obtain ⟨hc, hrest⟩ := List.forall_mem_cons.mp hchars
      rw [List.flatMap_cons, escape_of_isPlain hc, ih hrest, List.singleton_append]
  apply String.toList_injective
  simp [quote, hescape (List.all_eq_true.mp h)]

lemma labelled_quote {name : String} (h : name.toList.all isPlain = true)
    (lines : List String) : labelled (quote name ++ ": ") lines = member name lines := by
  rw [quote_eq h, member, String.append_assoc]
  rfl

/-! ## Every line is one line -/

lemma isPlain_of_mem_marks {c : Char} (h : c ∈ Binary32.marks) : isPlain c = true := by
  have hall : Binary32.marks.all isPlain = true := by decide
  exact List.all_eq_true.mp hall c h

lemma isPlain_decimal (n : Int) : (Text.decimal n).toList.all isPlain = true := by
  rw [Text.decimal, String.toList_ofList, List.all_eq_true]
  exact fun _ hc => isPlain_of_mem_marks (Text.writeInteger_subset_marks n hc)

lemma isPlain_text (style : Style) (x : Binary32) : (x.text style).all isPlain = true :=
  List.all_eq_true.mpr fun _ hc => isPlain_of_mem_marks (Binary32.text_subset_marks style x hc)

lemma not_mem_of_isPlain {text : List Char} (h : text.all isPlain = true) : '\n' ∉ text :=
  fun hmem => absurd (List.all_eq_true.mp h _ hmem) (by decide)

lemma not_mem_scalarText (value : Json) : '\n' ∉ value.scalarText.toList := by
  cases value with
  | null => decide
  | bool b => cases b <;> decide
  | int n => exact not_mem_of_isPlain (isPlain_decimal n)
  | float x =>
    rw [scalarText, floatText]
    split_ifs
    · rw [String.toList_ofList]
      exact not_mem_of_isPlain (isPlain_text _ x)
    · decide
  | str text => exact not_mem_quote text
  | arr => simp [scalarText]
  | obj => simp [scalarText]

section Lines

variable {lines : List String}

lemma not_mem_comma (h : ∀ line ∈ lines, '\n' ∉ line.toList) :
    ∀ line ∈ comma lines, '\n' ∉ line.toList := by
  induction lines with
  | nil => exact h
  | cons line rest ih =>
    obtain ⟨hline, hrest⟩ := List.forall_mem_cons.mp h
    cases rest with
    | nil => simpa [comma] using hline
    | cons next rest => exact List.forall_mem_cons.mpr ⟨hline, ih hrest⟩

lemma not_mem_joined {parts : List (List String)}
    (h : ∀ part ∈ parts, ∀ line ∈ part, '\n' ∉ line.toList) :
    ∀ line ∈ joined parts, '\n' ∉ line.toList := by
  induction parts with
  | nil => exact fun _ hmem => absurd hmem List.not_mem_nil
  | cons part parts ih =>
    obtain ⟨hpart, hparts⟩ := List.forall_mem_cons.mp h
    cases parts with
    | nil => exact hpart
    | cons next parts =>
      exact List.forall_mem_append.mpr ⟨not_mem_comma hpart, ih hparts⟩

lemma not_mem_block {opening closing : String} (hopening : '\n' ∉ opening.toList)
    (hclosing : '\n' ∉ closing.toList) {parts : List (List String)}
    (h : ∀ part ∈ parts, ∀ line ∈ part, '\n' ∉ line.toList) :
    ∀ line ∈ block opening closing parts, '\n' ∉ line.toList := by
  have hjoined := not_mem_joined h
  simp only [block, List.cons_append, List.forall_mem_cons, List.forall_mem_append,
    List.forall_mem_map]
  refine ⟨hopening, fun line hline => ?_, hclosing, by simp⟩
  simpa using hjoined line hline

lemma not_mem_labelled {label : String} (hlabel : '\n' ∉ label.toList)
    (h : ∀ line ∈ lines, '\n' ∉ line.toList) :
    ∀ line ∈ labelled label lines, '\n' ∉ line.toList := by
  cases lines with
  | nil => exact h
  | cons line lines =>
    obtain ⟨hline, hlines⟩ := List.forall_mem_cons.mp h
    exact List.forall_mem_cons.mpr ⟨by simp [hlabel, hline], hlines⟩

end Lines

lemma not_mem_lines (value : Json) : ∀ line ∈ value.lines, '\n' ∉ line.toList := by
  induction value using forall_of_parts with
  | scalar value hlines =>
    rw [hlines]
    exact List.forall_mem_singleton.mpr value.not_mem_scalarText
  | arr item items ih =>
    rw [lines, itemLines_eq]
    exact not_mem_block (by decide) (by decide) (List.forall_mem_map.mpr ih)
  | obj member members ih =>
    rw [lines, memberLines_eq]
    refine not_mem_block (by decide) (by decide) (List.forall_mem_map.mpr fun pair hpair => ?_)
    exact not_mem_labelled (by simp [not_mem_quote]) (ih pair hpair)

/-- A document is printed on its lines. -/
lemma lines_pretty (value : Json) : Text.lines value.pretty = value.lines := by
  have hlines := value.not_mem_lines
  obtain ⟨line, rest, heq⟩ := List.exists_cons_of_ne_nil value.lines_ne_nil
  rw [pretty, prettyAt_eq, heq]
  rw [heq] at hlines
  exact Text.lines_append_join hlines

end Json

/-! ## Names and types of the catalog -/

namespace FieldType

lemma isPlain_boundText (x : Binary32) : (boundText x).toList.all Json.isPlain = true := by
  unfold boundText
  dsimp only
  rw [String.toList_ofList]
  split_ifs
  · exact Json.isPlain_text _ x
  · exact Json.isPlain_text _ x

lemma isPlain_display (type : FieldType) : type.display.toList.all Json.isPlain = true := by
  cases type <;>
    simp only [display, rangeText, String.toList_append, List.all_append, Json.isPlain_decimal,
      isPlain_boundText, Bool.and_true] <;>
    decide

lemma exists_display_eq (type : FieldType) : ∃ front, type.display = front ++ "]" := by
  have hrange (name min max : String) : ∃ front, name ++ rangeText min max = front ++ "]" :=
    ⟨name ++ ("[" ++ min ++ ", " ++ max), String.append_assoc.symm⟩
  cases type with
  | int8 | int16 | uint8 | float32 => exact hrange _ _ _
  | chars capacity => exact ⟨_, rfl⟩

end FieldType

namespace Kind

variable (kind : Kind)

lemma isPlain_name : kind.name.toList.all Json.isPlain = true := by
  cases kind <;> decide

lemma isPlain_heading : kind.heading.toList.all Json.isPlain = true := by
  cases kind <;> decide

lemma isPlain_fieldName {name : String} (h : name ∈ kind.fields.map Field.name) :
    name.toList.all Json.isPlain = true := by
  have hall :
      (kind.fields.map Field.name).all (fun name => name.toList.all Json.isPlain) = true := by
    cases kind <;> decide
  exact List.all_eq_true.mp hall name h

end Kind

end Fieldbus
