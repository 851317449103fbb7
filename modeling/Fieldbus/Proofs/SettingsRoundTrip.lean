import Fieldbus.Command.Run
import Fieldbus.Proofs.FileTrees
import Fieldbus.Proofs.TomlStrings
import Fieldbus.Proofs.Utf8Text

/-!
# Settings are loaded as they were saved

The file of some settings is a document of fixed lines around the log level, whose string may be of
any form and take several lines. The reader takes it line by line: what stands before the level and
after it is the same for all levels, and the string is read as it was written. Nothing depends on
the line feed at the end, without which the settings are shown.
-/

namespace Fieldbus

namespace Toml

lemma write_cons (text : List Char) :
    ∃ mark tail, write text = mark :: tail ∧ (mark = '\x22' ∨ mark = '\x27') := by
  unfold write
  cases form text with
  | basic => exact ⟨_, _, rfl, .inl rfl⟩
  | literal => exact ⟨_, _, rfl, .inr rfl⟩
  | multilineBasic => exact ⟨_, _, rfl, .inl rfl⟩
  | multilineLiteral => exact ⟨_, _, rfl, .inr rfl⟩
  | escaped => exact ⟨_, _, rfl, .inl rfl⟩
  | multilineEscaped => exact ⟨_, _, rfl, .inl rfl⟩

lemma value?_write (text rest : List Char) :
    value? depthLimit (skipBlanks (' ' :: (write text ++ '\n' :: rest))) =
      some (.string (String.ofList text), '\n' :: rest) := by
  have hstring := string?_write text (c := '\n') (by decide) (by decide) rest
  have hvalue : value? depthLimit (skipBlanks (' ' :: (write text ++ '\n' :: rest))) =
      (string? (write text ++ '\n' :: rest)).map
        fun read => (.string (String.ofList read.1), read.2) := by
    obtain ⟨mark, tail, hwrite, rfl | rfl⟩ := write_cons text <;> rw [hwrite] <;> rfl
  rw [hvalue, hstring]
  rfl

def levelDraft (level : String) : Draft :=
  ⟨[("logging", .table .header [("level", .string level)])], ["logging"]⟩

lemma line?_level (level rest : List Char) :
    Draft.line? ⟨[("logging", .table .header [])], ["logging"]⟩
        ("level =".toList ++ ' ' :: (write level ++ '\n' :: rest)) =
      some (levelDraft (String.ofList level), rest) := by
  have hbinding : binding? (value? depthLimit)
      ("level =".toList ++ ' ' :: (write level ++ '\n' :: rest)) =
        some ((["level"], .string (String.ofList level)), '\n' :: rest) := by
    change (value? depthLimit (skipBlanks (' ' :: (write level ++ '\n' :: rest)))).map _ = _
    rw [value?_write]
    rfl
  change Option.bind (binding? (value? depthLimit)
    ("level =".toList ++ ' ' :: (write level ++ '\n' :: rest))) _ = _
  rw [hbinding]
  rfl

lemma lines?_level (fuel : Nat) (level rest : List Char) :
    Draft.lines? (fuel + 2) ⟨[], []⟩
        ("[logging]\nlevel =".toList ++ ' ' :: (write level ++ '\n' :: rest)) =
      Draft.lines? fuel (levelDraft (String.ofList level)) rest := by
  change (Draft.line? ⟨[("logging", .table .header [])], ["logging"]⟩
    ("level =".toList ++ ' ' :: (write level ++ '\n' :: rest))).bind _ = _
  rw [line?_level]
  rfl

end Toml

namespace Settings

/-- The lines of a settings file after the log level, up to the line feed at the end. -/
def ending (settings : Settings) : List Char :=
  "\n[output]\nformat = \"".toList ++ settings.format.name.toList ++
    "\"\nhex_uppercase = ".toList ++ (if settings.uppercase then "true" else "false").toList

def table (settings : Settings) : Toml.Table :=
  [("logging", .table .header [("level", .string settings.level)]),
    ("output", .table .header [("format", .string settings.format.name),
      ("hex_uppercase", .boolean settings.uppercase)])]

lemma ofTable?_table (settings : Settings) : ofTable? settings.table = some settings := by
  obtain ⟨level, format, uppercase⟩ := settings
  cases format <;> rfl

def document (settings : Settings) (last : List Char) : List Char :=
  "[logging]\nlevel =".toList ++
    ' ' :: (Toml.write settings.level.toList ++ '\n' :: (settings.ending ++ last))

lemma lines?_ending (settings : Settings) {last : List Char} (hlast : last = [] ∨ last = ['\n'])
    (fuel : Nat) : Toml.Draft.lines? (fuel + 5) (Toml.levelDraft settings.level)
      (settings.ending ++ last) = some settings.table := by
  obtain ⟨level, format, uppercase⟩ := settings
  unfold ending
  obtain rfl | rfl := hlast <;> cases format <;> cases uppercase <;>
    simp only [OutputFormat.name, Bool.false_eq_true, if_true, if_false] <;> rfl

-- Seven lines are taken, the empty ones included, and there are more characters than that.
lemma exists_fuel (settings : Settings) (last : List Char) :
    ∃ fuel, (settings.document last).length + 1 = fuel + 7 := by
  obtain ⟨tail, htail⟩ : ∃ tail, settings.document last = "[logging]\nlevel =".toList ++ tail :=
    ⟨_, rfl⟩
  have hhead : ("[logging]\nlevel =".toList).length = 17 := rfl
  rw [htail, List.length_append, hhead]
  exact ⟨tail.length + 11, by omega⟩

lemma parse?_document (settings : Settings) {last : List Char} (hlast : last = [] ∨ last = ['\n']) :
    Toml.parse? (settings.document last) = some settings.table := by
  have hmark : Toml.dropMark (settings.document last) = settings.document last := rfl
  have hlevel (fuel : Nat) : Toml.Draft.lines? (fuel + 2) ⟨[], []⟩ (settings.document last) =
      Toml.Draft.lines? fuel (Toml.levelDraft settings.level) (settings.ending ++ last) := by
    have hlines := Toml.lines?_level fuel settings.level.toList (settings.ending ++ last)
    rwa [String.ofList_toList] at hlines
  obtain ⟨fuel, hfuel⟩ := settings.exists_fuel last
  rw [Toml.parse?, hmark, hfuel, hlevel (fuel + 5)]
  exact lines?_ending settings hlast fuel

lemma toList_toToml (settings : Settings) : settings.toToml.toList = settings.document ['\n'] := by
  have hstart : "[logging]\nlevel = ".toList = "[logging]\nlevel =".toList ++ [' '] := rfl
  have hmiddle : "\n\n[output]\nformat = \"".toList =
      '\n' :: "\n[output]\nformat = \"".toList := rfl
  have hend : "\n".toList = ['\n'] := rfl
  unfold toToml document ending
  simp only [String.toList_append, String.toList_ofList, hstart, hmiddle, hend, List.append_assoc,
    List.cons_append, List.nil_append]

lemma exists_document (settings : Settings) :
    ∃ front, ∀ last, settings.document last = front ++ 'e' :: last := by
  have hword : ∃ word, (if settings.uppercase then "true" else "false").toList = word ++ ['e'] := by
    cases settings.uppercase with
    | true => exact ⟨"tru".toList, rfl⟩
    | false => exact ⟨"fals".toList, rfl⟩
  obtain ⟨word, hword⟩ := hword
  refine ⟨"[logging]\nlevel =".toList ++ ' ' :: (Toml.write settings.level.toList ++
    '\n' :: ("\n[output]\nformat = \"".toList ++ settings.format.name.toList ++
      "\"\nhex_uppercase = ".toList ++ word)), fun last => ?_⟩
  unfold document ending
  simp only [hword, List.append_assoc, List.cons_append, List.nil_append]

lemma trimEnd_document (settings : Settings) :
    Text.trimEnd (settings.document ['\n']) = settings.document [] := by
  obtain ⟨front, hfront⟩ := settings.exists_document
  rw [hfront, hfront, Text.trimEnd, List.reverse_append]
  change (List.dropWhile _ ('\n' :: 'e' :: front.reverse)).reverse = _
  rw [List.dropWhile_cons_of_pos (by decide), List.dropWhile_cons_of_neg (by decide),
    List.reverse_cons, List.reverse_reverse]

end Settings

namespace Config

lemma parse_document (settings : Settings) {last : List Char} (hlast : last = [] ∨ last = ['\n']) :
    parse (String.ofList (settings.document last)) = .ok settings := by
  rw [parse, String.toList_ofList, settings.parse?_document hlast]
  dsimp only
  rw [settings.ofTable?_table]

lemma parse_toToml (settings : Settings) : parse settings.toToml = .ok settings := by
  have hdocument := parse_document settings (.inr rfl)
  rwa [← settings.toList_toToml, String.ofList_toList] at hdocument

lemma load_of_read {settings : Settings} {files : Files} {path text : String}
    (hparse : parse text = .ok settings) (h : files.read path = .ok (Utf8.encode text.toList)) :
    load files path = .ok settings := by
  have htext : files.readText path = .ok text := by
    simp only [Files.readText, h, bind, Except.bind, Utf8.decode?_encode, String.ofList_toList]
    rfl
  rw [load, htext]
  dsimp only
  rw [hparse]
  rfl

/-- Saving adds directories and then stores the settings at the place that the path leads to; if it
fails, only directories were added. -/
lemma save_cases {settings : Settings} {files new : Files} {path : String}
    {result : Except ConfigError Unit} (h : save settings files path = (result, new)) :
    (∃ fault, result = .error fault ∧ files.Grows new) ∨
      ∃ grown target, result = .ok () ∧ files.Grows grown ∧
        Files.Stores target (Utf8.encode settings.toToml.toList) grown new ∧
        new.locate path = .ok target := by
  have hprepare : files.Grows (prepare files path).2 := by
    unfold prepare
    split
    · exact .refl files
    · exact files.grows_makeAll _
  unfold save at h
  cases hmade : prepare files path with
  | mk made grown =>
    rw [hmade] at h hprepare
    cases made with
    | error fault =>
      obtain ⟨rfl, rfl⟩ := Prod.mk.inj h
      exact .inl ⟨fault, rfl, hprepare⟩
    | ok done =>
      dsimp only at h
      cases hwrite : grown.write path (Utf8.encode settings.toToml.toList) with
      | error cause =>
        rw [hwrite] at h
        obtain ⟨rfl, rfl⟩ := Prod.mk.inj h
        exact .inl ⟨.io path cause, rfl, hprepare⟩
      | ok written =>
        rw [hwrite] at h
        obtain ⟨rfl, rfl⟩ := Prod.mk.inj h
        obtain ⟨target, hstores, htarget⟩ := Files.stores_of_write hwrite
        exact .inr ⟨grown, target, rfl, hprepare, hstores, htarget⟩

/-- Whatever the settings, the file that saving them leaves is loaded as those settings. So is every
file that holds the same text, or the trimmed text that is shown of settings in text format. -/
theorem load_settings_file (settings : Settings) :
    (∀ files path new, save settings files path = (.ok (), new) →
      new.read path = .ok (Utf8.encode settings.toToml.toList) ∧ load new path = .ok settings) ∧
    (∀ text files path,
      text = settings.toToml ∨ text = String.ofList (Text.trimEnd settings.toToml.toList) →
        files.read path = .ok (Utf8.encode text.toList) → load files path = .ok settings) ∧
    (settings.format = .text → ∀ path files,
      (Command.configShow.run ⟨settings, path⟩ files).result =
        .ok (String.ofList (Text.trimEnd settings.toToml.toList))) := by
  refine ⟨?_, ?_, ?_⟩
  · intro files path new h
    obtain ⟨fault, hfault, _⟩ | ⟨grown, target, _, _, hstores, htarget⟩ := save_cases h
    · nomatch hfault
    · have hread := Files.read_eq_ok_iff.mpr
        ⟨target, htarget, Node.at?_eq_some_some.mp hstores.stored⟩
      exact ⟨hread, load_of_read (parse_toToml settings) hread⟩
  · rintro text files path (rfl | rfl) h
    · exact load_of_read (parse_toToml settings) h
    · apply load_of_read _ h
      rw [settings.toList_toToml, settings.trimEnd_document]
      exact parse_document settings (.inl rfl)
  · intro htext path files
    change Except.ok (Command.showSettings settings) = _
    rw [Command.showSettings, htext]

theorem load_settings_file_quotes :
    let settings : Settings := ⟨"'''\"\"\"\\\n\t\x01é ", .json, true⟩
    let files : Files := .inside ["home"]
    let shown := String.ofList (Text.trimEnd settings.toToml.toList)
    let copy : Files := ⟨.directory [("copy", .file (Utf8.encode shown.toList))], []⟩
    (save settings files "tool/settings.toml").1.isOk = true ∧
      load (save settings files "tool/settings.toml").2 "tool/settings.toml" = .ok settings ∧
      copy.read "copy" = .ok (Utf8.encode shown.toList) ∧ load copy "copy" = .ok settings := by
  intro settings files shown copy
  have hsaved : save settings files "tool/settings.toml" =
      (.ok (), (save settings files "tool/settings.toml").2) := rfl
  have hcopy : copy.read "copy" = .ok (Utf8.encode shown.toList) := rfl
  obtain ⟨hsave, htext, _⟩ := load_settings_file settings
  exact ⟨by rw [hsaved]; rfl, (hsave _ _ _ hsaved).2, hcopy, htext _ _ _ (.inr rfl) hcopy⟩

end Config

end Fieldbus
