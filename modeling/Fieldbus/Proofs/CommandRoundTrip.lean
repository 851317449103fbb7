import Fieldbus.Command.Run
import Fieldbus.Proofs.Assignments
import Fieldbus.Proofs.DecimalTexts
import Fieldbus.Proofs.FrameRoundTrip
import Fieldbus.Proofs.PrintedLines

/-!
# What is encoded is shown again

An operator takes the digits that the encode command printed, perhaps adds some, and types them with
marks and separators into the decode command. It shows the message that was built, whatever was
assigned to it, and warns exactly if there were digits left over.

As a document a message is the same lines in both commands. Numbers and strings in it can be told
from their text: a float is read from the digits that are written, bit for bit, and what stands
between quotes is the content of a string, escaped character by character.
-/

namespace Fieldbus

/-! ## Messages as documents -/

/-- How a value is written in a document. -/
inductive FieldValue.Written : FieldValue → String → Prop where
  | int (n : Int) : Written (.int n) (Text.decimal n)
  | float {x : Binary32} (h : Binary32.read (x.text .interchange) = .ok x) :
      Written (.float x) (String.ofList (x.text .interchange))
  | chars {text : String} (h : Json.Quoted text.toList (Json.quote text).toList) :
      Written (.chars text) (Json.quote text)

lemma FieldType.written_value {type : FieldType} {cell : type.Cell} (h : type.InRange cell) :
    (type.value cell).Written (type.value cell).toJson.scalarText := by
  cases type with
  | int8 | int16 | uint8 => exact .int _
  | float32 =>
    have hfinite : Binary32.isFinite cell = true := h.2
    change FieldValue.Written (.float cell) (Json.floatText cell)
    rw [Json.floatText, if_pos hfinite]
    exact .float (Binary32.read_text _ hfinite)
  | chars => exact .chars (Json.quoted_quote _)

namespace Message

/-- The lines of a document that holds a message: its kind, and the fields in the order of its
layout, each with its name and its value. -/
def Document (message : Message) (lines : List String) : Prop :=
  ∃ written : Slot message.kind.fields → String,
    (∀ slot, (message.record.valueAt slot).Written (written slot)) ∧
    lines = Json.block "\x7b" "\x7d" [
      Json.member "kind" ["\x22" ++ message.name ++ "\x22"],
      Json.member "fields" (Json.block "\x7b" "\x7d"
        ((Slot.all message.kind.fields).map fun slot =>
          Json.member slot.field.name [written slot]))]

lemma lines_toJson_fields (message : Message) :
    (Json.obj (message.fields.map fun field => (field.1, field.2.toJson))).lines =
      Json.block "\x7b" "\x7d" ((Slot.all message.kind.fields).map fun slot =>
        Json.member slot.field.name [(message.record.valueAt slot).toJson.scalarText]) := by
  have hlines (value : FieldValue) : value.toJson.lines = [value.toJson.scalarText] := by
    cases value <;> rfl
  rw [fields, Record.values_eq, Json.lines_obj (by simpa using message.kind.slots_ne_nil),
    List.map_map, List.map_map]
  refine congrArg _ (List.map_congr_left fun slot _ => ?_)
  rw [Function.comp_apply, Function.comp_apply, hlines,
    Json.labelled_quote (message.kind.isPlain_fieldName slot.name_mem)]

lemma document_toJson {message : Message} (h : message.InRange) :
    message.Document (Text.lines message.toJson.pretty) := by
  have hname := Json.quote_eq message.kind.isPlain_name
  refine ⟨fun slot => (message.record.valueAt slot).toJson.scalarText,
    fun slot => FieldType.written_value (h slot), ?_⟩
  rw [Json.lines_pretty, toJson, Json.lines_obj (by simp)]
  simp (disch := decide) only [List.map_cons, List.map_nil, Json.labelled_quote, Json.lines_str,
    name, hname, lines_toJson_fields]

end Message

/-! ## The pipeline -/

namespace Message

variable {message next : Message}

lemma inRange_of_apply (hmessage : message.InRange) {assignment : Assignment}
    {report : Option Event} (h : message.apply assignment = .ok (next, report)) :
    next.InRange := by
  obtain ⟨slot, _, input, -, -, -, rfl, -⟩ := apply_cases h
  exact Record.inRange_put message.kind.wellFormed_fields hmessage slot input

lemma inRange_of_applyAll (hmessage : message.InRange) {assignments : List Assignment}
    (h : (message.applyAll assignments).1 = .ok next) : next.InRange := by
  induction assignments generalizing message with
  | nil =>
    obtain rfl := Except.ok.inj h
    exact hmessage
  | cons assignment assignments ih =>
    rw [applyAll] at h
    cases happly : message.apply assignment with
    | error fault => simp [happly] at h
    | ok result =>
      rw [happly] at h
      exact ih (inRange_of_apply hmessage happly) h

lemma inRange_of_build {kind : Kind} {assignments : List Assignment}
    (h : (build kind assignments).1 = .ok message) : message.InRange :=
  inRange_of_applyAll (inRange_fresh kind) h

end Message

/-- The codec reports what it does, but leaves warnings to its callers. -/
lemma Kind.level_of_mem_reception {kind : Kind} {buffer : List UInt8} {event : Event}
    (h : event ∈ kind.reception buffer) : event.level ≠ .warn := by
  unfold reception at h
  split at h <;> simp at h <;> simp [h]

namespace Command

lemma level_of_mem_receiveEvents {id : Option UInt8} {bytes : List UInt8} {event : Event}
    (h : event ∈ receiveEvents id bytes) : event.level ≠ .warn := by
  have hAs {id : UInt8} (h : event ∈ Message.receptionAs id bytes) : event.level ≠ .warn := by
    unfold Message.receptionAs at h
    split at h
    · simp [List.mem_singleton.mp h, unknownIdEvent]
    · exact Kind.level_of_mem_reception h
  cases id with
  | some id => exact hAs h
  | none =>
    cases bytes with
    | nil => nomatch h
    | cons id rest => exact hAs h

lemma runEncode_eq_ok_iff {settings : Settings} {kindText output : String}
    {assignments : List Assignment} :
    (runEncode settings kindText assignments).1 = .ok output ↔
      ∃ kind message, Kind.parse kindText = .ok kind ∧
        (Message.build kind assignments).1 = .ok message ∧
        encodeOutput settings message = output := by
  constructor
  · intro h
    unfold runEncode at h
    cases hkind : Kind.parse kindText with
    | error cause => simp [hkind] at h
    | ok kind =>
      cases hbuild : Message.build kind assignments with
      | mk result events =>
        cases result with
        | error fault => simp [hkind, hbuild] at h
        | ok message =>
          simp only [hkind, hbuild, Except.ok.injEq] at h
          exact ⟨kind, message, rfl, by rw [hbuild], h⟩
  · rintro ⟨kind, message, hkind, hbuild, rfl⟩
    have hpair : Message.build kind assignments =
        (.ok message, (Message.build kind assignments).2) := Prod.ext hbuild rfl
    rw [runEncode, hkind]
    dsimp only
    rw [hpair]

lemma receive_encode {message : Message} (h : message.InRange) {id : Option UInt8}
    (hid : id = none ∨ id = some message.id) (rest : List UInt8) :
    receive id (message.encode ++ rest) = .ok message := by
  obtain rfl | rfl := hid
  · exact Message.decode_encode h rest
  · exact Message.decodeAs_encode h rest

/-- The warning about a number of bytes after a message. -/
def ignoring (message : Message) (extra : Nat) : Event where
  level := .warn
  target := "ducklink_cli::commands::decode"
  message := "ignoring bytes after the " ++ message.name ++ " message"
  details := [("extra", .int extra)]

lemma extraBytes_encode (message : Message) (rest : List UInt8) :
    extraBytes message (message.encode ++ rest) =
      if rest.length = 0 then [] else [ignoring message rest.length] := by
  rw [extraBytes, List.length_append, message.length_encode, Nat.add_sub_cancel_left]
  by_cases h : rest.length = 0
  · rw [if_neg (by omega), if_pos h]
  · rw [if_pos (by omega), if_neg h]
    rfl

end Command

def Outcome.warnings (outcome : Outcome) : List Event :=
  outcome.events.filter fun event => event.level = .warn

namespace Command

lemma run_decode_of_parse {message : Message} (hmessage : message.InRange) {typed : String}
    {rest : List UInt8} (h : Hex.parse typed.toList = .ok (message.encode ++ rest))
    {id : Option UInt8} (hid : id = none ∨ id = some message.id) (context : Context)
    (files : Files) :
    ((decode typed id).run context files).result = .ok (decodeOutput context.settings message) ∧
      ((decode typed id).run context files).warnings =
        if rest.length = 0 then [] else [ignoring message rest.length] := by
  have hrun : (decode typed id).run context files =
      ⟨.ok (decodeOutput context.settings message), receiveEvents id (message.encode ++ rest) ++
        extraBytes message (message.encode ++ rest), files⟩ := by
    rw [run, runDecode, h]
    dsimp only
    rw [receive_encode hmessage hid]
  have hquiet : (receiveEvents id (message.encode ++ rest)).filter
      (fun event => event.level = .warn) = [] := by
    rw [List.filter_eq_nil_iff]
    intro event hevent
    simp [level_of_mem_receiveEvents hevent]
  rw [hrun, Outcome.warnings, List.filter_append, hquiet, List.nil_append, extraBytes_encode]
  refine ⟨rfl, ?_⟩
  split_ifs <;> rfl

lemma quote_format (bytes : List UInt8) (upper : Bool) :
    Json.quote (String.ofList (Hex.format bytes upper)) =
      "\x22" ++ String.ofList (Hex.format bytes upper) ++ "\x22" := by
  have hall : Hex.alphabet.all Json.isPlain = true := by decide
  apply Json.quote_eq
  rw [String.toList_ofList, List.all_eq_true]
  exact fun c hc => List.all_eq_true.mp hall c (Hex.mem_alphabet_of_mem_format hc)

lemma lines_encodeOutput {settings : Settings} (h : settings.format = .json) (message : Message) :
    Text.lines (encodeOutput settings message) = Json.block "\x7b" "\x7d" [
      Json.member "hex"
        ["\x22" ++ String.ofList (Hex.format message.encode settings.uppercase) ++ "\x22"],
      Json.member "wire_len" [Text.decimal message.encode.length],
      Json.member "message" (Text.lines message.toJson.pretty)] := by
  rw [encodeOutput, h]
  dsimp only
  rw [Json.lines_pretty, Json.lines_pretty, Json.lines_obj (by simp)]
  simp (disch := decide) only [List.map_cons, List.map_nil, Json.labelled_quote, Json.lines_int,
    Json.lines_str, quote_format]

/-- Digits that were printed for a message, with an even number of digits after them, are decoded to
that message however they are typed. As text it is rendered; as a document it has the lines that are
printed after its digits when it is encoded as a document. The bytes after it are counted in a
warning. -/
theorem run_decode_of_run_encode {kindText output : String} {assignments : List Assignment}
    {context : Context} {files : Files} (hformat : context.settings.format = .text)
    (h : ((encode kindText assignments).run context files).result = .ok output) :
    ∃ kind message document, Kind.parse kindText = .ok kind ∧
      (Message.build kind assignments).1 = .ok message ∧
      message.Document (Text.lines document) ∧
      (∀ context files, context.settings.format = .json →
        ∃ printed, ((encode kindText assignments).run context files).result = .ok printed ∧
          Text.lines printed = Json.block "\x7b" "\x7d" [
            Json.member "hex" ["\x22" ++
              String.ofList (Hex.format message.encode context.settings.uppercase) ++ "\x22"],
            Json.member "wire_len" [Text.decimal message.encode.length],
            Json.member "message" (Text.lines document)]) ∧
      ∀ (further : List Char) (typed : String) (id : Option UInt8) (context : Context)
        (files : Files), (∀ c ∈ further, c ∈ Hex.alphabet) → further.length % 2 = 0 →
        Hex.Typed (output.toList ++ further) typed.toList → (id = none ∨ id = some message.id) →
        let outcome := (decode typed id).run context files
        (context.settings.format = .text → outcome.result = .ok message.render) ∧
        (context.settings.format = .json → outcome.result = .ok document) ∧
        outcome.warnings =
          if further = [] then [] else [ignoring message (further.length / 2)] := by
  obtain ⟨kind, message, hkind, hbuild, rfl⟩ := runEncode_eq_ok_iff.mp h
  have hmessage := Message.inRange_of_build hbuild
  refine ⟨kind, message, message.toJson.pretty, hkind, hbuild, message.document_toJson hmessage,
    ?_, ?_⟩
  · intro context files hjson
    exact ⟨_, runEncode_eq_ok_iff.mpr ⟨kind, message, hkind, hbuild, rfl⟩,
      lines_encodeOutput hjson message⟩
  · intro further typed id context' files' hdigits heven htyped hid
    have houtput : (encodeOutput context.settings message).toList =
        Hex.format message.encode context.settings.uppercase := by
      rw [encodeOutput, hformat, String.toList_ofList]
    rw [houtput] at htyped
    obtain ⟨rest, hparse, hrest⟩ := Hex.exists_parse_of_typed hdigits heven htyped
    obtain ⟨hresult, hwarnings⟩ := run_decode_of_parse hmessage hparse hid context' files'
    have hempty : further.length / 2 = 0 ↔ further = [] := by
      rw [← List.length_eq_zero_iff]
      omega
    refine ⟨?_, ?_, ?_⟩
    · intro htext
      rw [hresult, decodeOutput, htext]
    · intro hjson
      rw [hresult, decodeOutput, hjson]
    · rw [hwarnings, hrest]
      simp only [hempty]

/-- A number that had to be clamped is shown as it was sent, a quote and a line feed are escaped,
and two bytes are left over. -/
theorem run_decode_of_run_encode_leftover :
    let assignments : List Assignment :=
      [⟨"decimal", "2e3"⟩, ⟨"entier", "-6"⟩, ⟨"name", "a\x22\n"⟩]
    let files := Files.inside []
    let typed := "0x02:0000 7A-44 FA FF 6122-0A 00000000 0000000000F34:9 bE:Ef"
    let text := (decode typed none).run ⟨.default, none⟩ files
    let json := (decode typed none).run ⟨⟨"info", .json, false⟩, none⟩ files
    ((encode "upplop" assignments).run ⟨⟨"info", .text, true⟩, none⟩ files).result =
        .ok "0200007A44FAFF61220A000000000000000000F349" ∧
      ((encode "upplop" assignments).run ⟨⟨"info", .json, true⟩, none⟩ files).result =
        .ok ("\x7b\n  \x22hex\x22: \x220200007A44FAFF61220A000000000000000000F349\x22,\n" ++
          "  \x22wire_len\x22: 21,\n  \x22message\x22: \x7b\n    \x22kind\x22: \x22UpPlop\x22,\n" ++
          "    \x22fields\x22: \x7b\n      \x22decimal\x22: 1000.0,\n      \x22entier\x22: -6,\n" ++
          "      \x22name\x22: \x22a\\\x22\\n\x22\n    \x7d\n  \x7d\n\x7d") ∧
      json.result =
        .ok ("\x7b\n  \x22kind\x22: \x22UpPlop\x22,\n  \x22fields\x22: \x7b\n" ++
          "    \x22decimal\x22: 1000.0,\n    \x22entier\x22: -6,\n" ++
          "    \x22name\x22: \x22a\\\x22\\n\x22\n  \x7d\n\x7d") ∧
      ∃ kind message document, (Message.build kind assignments).1 = .ok message ∧
        message.Document (Text.lines document) ∧ json.result = .ok document ∧
        text.result = .ok message.render ∧ text.warnings = [ignoring message 2] := by
  intro assignments files typed text json
  have h : ((encode "upplop" assignments).run ⟨⟨"info", .text, true⟩, none⟩ files).result =
      .ok "0200007A44FAFF61220A000000000000000000F349" := by decide +kernel
  have hdigits : ∀ c ∈ "0200007A44FAFF61220A000000000000000000F349".toList ++ "bEEf".toList,
      c ∈ Hex.alphabet := by
    have hall : ("0200007A44FAFF61220A000000000000000000F349".toList ++ "bEEf".toList).all
        Hex.alphabet.contains = true := by decide
    exact fun c hc => List.contains_iff_mem.mp (List.all_eq_true.mp hall c hc)
  have htyped : Hex.Typed ("0200007A44FAFF61220A000000000000000000F349".toList ++ "bEEf".toList)
      typed.toList :=
    ⟨"0x".toList, by decide,
      "02:0000 7A-44 FA FF 6122-0A 00000000 0000000000F34:9 bE:Ef".toList,
      (Hex.spaced_iff hdigits).mpr (by decide), by decide⟩
  obtain ⟨kind, message, document, _, hbuild, hdocument, _, hdecode⟩ :=
    run_decode_of_run_encode rfl h
  have hfurther := (List.forall_mem_append.mp hdigits).2
  obtain ⟨htext, _, hwarnings⟩ := hdecode "bEEf".toList typed none ⟨.default, none⟩ files
    hfurther (by decide) htyped (.inl rfl)
  obtain ⟨_, hjson, _⟩ := hdecode "bEEf".toList typed none ⟨⟨"info", .json, false⟩, none⟩ files
    hfurther (by decide) htyped (.inl rfl)
  exact ⟨h, by decide +kernel, by decide +kernel, kind, message, document, hbuild, hdocument,
    hjson rfl, htext rfl, hwarnings⟩

end Command

end Fieldbus
