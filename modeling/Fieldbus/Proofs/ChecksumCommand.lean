import Fieldbus.Proofs.CommandRoundTrip
import Fieldbus.Proofs.HexGrammar

/-!
# The checksum command agrees with the encoder

An operator takes the digits that the encode command printed, cuts off the last four and asks for
the checksum of the others. The answer is the four digits that were cut off, as they go over the
wire, and before them the number itself, whose digits have the two bytes exchanged. Both commands
print in the same case and fill up with zeros.
-/

namespace Fieldbus

namespace Hex

lemma format_append (front back : List UInt8) (upper : Bool) :
    format (front ++ back) upper = format front upper ++ format back upper := List.flatMap_append

lemma exists_digits_of_word (upper : Bool) (word : UInt16) :
    ∃ a b c d, format (LittleEndian.encode16 word) upper = [a, b, c, d] ∧
      Hex.word upper word = "0x" ++ String.ofList [c, d, a, b] :=
  ⟨_, _, _, _, rfl, rfl⟩

end Hex

lemma Message.format_encode (message : Message) (upper : Bool) :
    Hex.format message.encode upper = Hex.format message.body upper ++
      Hex.format (LittleEndian.encode16 (checksum message.body)) upper := by
  rw [encode, Hex.format_append]

namespace Command

lemma runChecksum_format (settings : Settings) (bytes : List UInt8) (upper : Bool) :
    let sum := Fieldbus.checksum bytes
    let wire := String.ofList (Hex.format (LittleEndian.encode16 sum) settings.uppercase)
    (settings.format = .text →
      runChecksum settings (String.ofList (Hex.format bytes upper)) =
        .ok (Hex.word settings.uppercase sum ++ " (wire " ++ wire ++ ")")) ∧
    (settings.format = .json →
      ∃ printed, runChecksum settings (String.ofList (Hex.format bytes upper)) = .ok printed ∧
        Text.lines printed = ["\x7b", "  \x22length\x22: " ++ Text.decimal bytes.length ++ ",",
          "  \x22checksum\x22: " ++ Text.decimal sum.toNat ++ ",",
          "  \x22wire\x22: \x22" ++ wire ++ "\x22", "\x7d"]) := by
  intro sum wire
  constructor
  · intro htext
    simp only [runChecksum, String.toList_ofList, Hex.parse_format, htext]
    rfl
  · intro hjson
    simp only [runChecksum, String.toList_ofList, Hex.parse_format, hjson]
    refine ⟨_, rfl, ?_⟩
    rw [Json.lines_pretty, Json.lines_obj (by simp)]
    simp (disch := decide) only [List.map_cons, List.map_nil, Json.labelled_quote, Json.lines_int,
      Json.lines_str, quote_format, wire, sum]
    simp [Json.block, Json.joined, Json.comma, Json.member, Json.labelled, ← String.append_assoc]

/-- Whenever the encode command succeeds, the digits it prints end in four that the checksum command
finds again from the others: as text after the number, in which the two bytes are exchanged, and as
a document beside the number of the others' bytes. -/
theorem run_checksum_of_run_encode {kindText output : String} {assignments : List Assignment}
    {context : Context} {files : Files}
    (h : ((encode kindText assignments).run context files).result = .ok output) :
    ∃ kind message, Kind.parse kindText = .ok kind ∧
      (Message.build kind assignments).1 = .ok message ∧
      ∃ (front : List Char) (a b c d : Char),
        (context.settings.format = .text → output = String.ofList (front ++ [a, b, c, d])) ∧
        (context.settings.format = .json → Text.lines output = Json.block "\x7b" "\x7d" [
          Json.member "hex" ["\x22" ++ String.ofList (front ++ [a, b, c, d]) ++ "\x22"],
          Json.member "wire_len" [Text.decimal message.wireLength],
          Json.member "message" (Text.lines message.toJson.pretty)]) ∧
        ∀ (other : Context) (files : Files), other.settings.uppercase = context.settings.uppercase →
          let result := ((checksum (String.ofList front)).run other files).result
          (other.settings.format = .text → result = .ok ("0x" ++ String.ofList [c, d, a, b] ++
            " (wire " ++ String.ofList [a, b, c, d] ++ ")")) ∧
          (other.settings.format = .json → ∃ printed, result = .ok printed ∧
            Text.lines printed = ["\x7b",
              "  \x22length\x22: " ++ Text.decimal (message.wireLength - 2 : Nat) ++ ",",
              "  \x22checksum\x22: " ++
                Text.decimal (Fieldbus.checksum message.body).toNat ++ ",",
              "  \x22wire\x22: \x22" ++ String.ofList [a, b, c, d] ++ "\x22", "\x7d"]) := by
  obtain ⟨kind, message, hkind, hbuild, rfl⟩ := runEncode_eq_ok_iff.mp h
  obtain ⟨a, b, c, d, hwire, hword⟩ :=
    Hex.exists_digits_of_word context.settings.uppercase (Fieldbus.checksum message.body)
  have hdigits : Hex.format message.encode context.settings.uppercase =
      Hex.format message.body context.settings.uppercase ++ [a, b, c, d] := by
    rw [message.format_encode, hwire]
  refine ⟨kind, message, hkind, hbuild, Hex.format message.body context.settings.uppercase,
    a, b, c, d, ?_, ?_, ?_⟩
  · intro htext
    rw [encodeOutput, htext, hdigits]
  · intro hjson
    rw [lines_encodeOutput hjson, hdigits, message.length_encode]
  · intro other files hupper
    obtain ⟨htext, hjson⟩ :=
      runChecksum_format other.settings message.body context.settings.uppercase
    have hlength : message.body.length = message.wireLength - 2 := message.length_body
    rw [hupper, hwire] at htext hjson
    rw [hword] at htext
    rw [hlength] at hjson
    simp only [run]
    exact ⟨htext, hjson⟩

/-- The number of a checksum keeps its leading zero as text, and is a plain number in a document. -/
theorem run_checksum_of_run_encode_leading_zero :
    let assignments : List Assignment := [⟨"vtheta", "200"⟩, ⟨"vx", "-6"⟩]
    let text : Context := ⟨⟨"info", .text, true⟩, none⟩
    let json : Context := ⟨⟨"info", .json, true⟩, none⟩
    let files := Files.inside []
    ((encode "upspeedreport" assignments).run text files).result = .ok "030AFA00002808" ∧
      ((checksum "030AFA0000").run text files).result = .ok "0x0828 (wire 2808)" ∧
      ∃ printed, ((checksum "030AFA0000").run json files).result = .ok printed ∧
        Text.lines printed = ["\x7b", "  \x22length\x22: 5,", "  \x22checksum\x22: 2088,",
          "  \x22wire\x22: \x222808\x22", "\x7d"] := by
  intro assignments text json files
  have h : ((encode "upspeedreport" assignments).run text files).result =
      .ok "030AFA00002808" := by decide
  obtain ⟨kind, message, hkind, hbuild, front, a, b, c, d, houtput, _, hchecksum⟩ :=
    run_checksum_of_run_encode h
  have hdigits : front ++ [a, b, c, d] = "030AFA0000".toList ++ "2808".toList := by
    rw [← String.toList_ofList (l := front ++ [a, b, c, d]), ← houtput rfl]
    rfl
  obtain ⟨rfl, hlast⟩ := List.append_inj' hdigits rfl
  obtain ⟨rfl, rfl, rfl, rfl⟩ : a = '2' ∧ b = '8' ∧ c = '0' ∧ d = '8' := by simpa using hlast
  obtain rfl : Kind.upSpeedReport = kind := Except.ok.inj hkind
  have hnumbers : (Message.build .upSpeedReport assignments).1.map
      (fun message => (message.wireLength, Fieldbus.checksum message.body)) = .ok (7, 0x0828) := by
    decide
  rw [hbuild] at hnumbers
  obtain ⟨hlength, hsum⟩ := Prod.mk.inj (Except.ok.inj hnumbers)
  obtain ⟨printed, hprinted, hlines⟩ := (hchecksum json files rfl).2 rfl
  rw [hlength, hsum] at hlines
  exact ⟨h, (hchecksum text files rfl).1 rfl, printed, hprinted, hlines.trans (by decide)⟩

end Command

end Fieldbus
