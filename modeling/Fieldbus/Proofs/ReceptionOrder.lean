import Fieldbus.Proofs.FrameChecks
import Fieldbus.Proofs.LittleEndianWords
import Mathlib.Data.List.Basic

/-!
# Which check rejects a buffer

A receiver makes four checks: that the id is in the catalog, that the buffer holds a whole frame,
that the checksum is right, and that the first byte is the id. Each outcome is characterised by a
condition on the id and the buffer in which every earlier check has passed, so the first check that
fails decides. A receiver that takes the id from the buffer itself differs only in that its last
check cannot fail.
-/

namespace Fieldbus

namespace Kind

lemma exists_id_eq_iff {id : UInt8} : (∃ kind : Kind, kind.id = id) ↔ ¬3 < id := by
  constructor
  · rintro ⟨kind, rfl⟩
    cases kind <;> decide
  · intro h
    rw [UInt8.lt_iff_toNat_lt] at h
    change ¬3 < id.toNat at h
    obtain h | h | h | h : id.toNat = 0 ∨ id.toNat = 1 ∨ id.toNat = 2 ∨ id.toNat = 3 := by omega
    · exact ⟨.downToto, UInt8.toNat_inj.mp h.symm⟩
    · exact ⟨.interMcuProut, UInt8.toNat_inj.mp h.symm⟩
    · exact ⟨.upPlop, UInt8.toNat_inj.mp h.symm⟩
    · exact ⟨.upSpeedReport, UInt8.toNat_inj.mp h.symm⟩

/-- Everything that a receiver for one kind can answer. -/
lemma decode_cases (kind : Kind) (buffer : List UInt8) :
    buffer.length < kind.wireLength ∧
        kind.decode buffer = .error (.insufficientBuffer kind.wireLength buffer.length) ∨
      kind.wireLength ≤ buffer.length ∧ ¬kind.Checked buffer ∧
        kind.decode buffer = .error (.checksumMismatch (checksum (buffer.take kind.bodyLength))
          (LittleEndian.decode16 (buffer.drop kind.bodyLength))) ∨
      ∃ first, kind.wireLength ≤ buffer.length ∧ kind.Checked buffer ∧ buffer.head? = some first ∧
        (first ≠ kind.id ∧ kind.decode buffer = .error (.idMismatch kind.id first) ∨
          first = kind.id ∧
            kind.decode buffer = .ok (kind.read (buffer.take kind.bodyLength))) := by
  obtain hlen | hlen := Nat.lt_or_ge buffer.length kind.wireLength
  · exact .inl ⟨hlen, by rw [decode_eq, if_pos hlen]⟩
  by_cases hsum : kind.Checked buffer
  · cases buffer with
    | nil => exact absurd hlen (Nat.not_le.mpr (Nat.zero_lt_succ _))
    | cons first rest =>
      refine .inr (.inr ⟨first, hlen, hsum, rfl, ?_⟩)
      by_cases hid : first = kind.id
      · exact .inr ⟨hid, decode_eq_ok_iff.mpr ⟨hlen, hsum, hid, rfl⟩⟩
      · refine .inl ⟨hid, ?_⟩
        rw [decode_eq, if_neg (Nat.not_lt.mpr hlen), if_neg (not_not_intro hsum), List.headD_cons,
          if_pos hid]
  · exact .inr (.inl ⟨hlen, hsum, decode_of_not_checked hlen hsum⟩)

section Decode

variable {kind : Kind} {buffer : List UInt8}

lemma decode_eq_insufficientBuffer_iff {needed available : Nat} :
    kind.decode buffer = .error (.insufficientBuffer needed available) ↔
      buffer.length < kind.wireLength ∧ needed = kind.wireLength ∧ available = buffer.length := by
  obtain ⟨hlen, h⟩ | ⟨hlen, hsum, h⟩ | ⟨first, hlen, hsum, hfirst, ⟨hid, h⟩ | ⟨hid, h⟩⟩ :=
    kind.decode_cases buffer
  · simp [h, hlen, eq_comm]
  · simp [h, Nat.not_lt.mpr hlen]
  · simp [h, Nat.not_lt.mpr hlen]
  · simp [h, Nat.not_lt.mpr hlen]

lemma decode_eq_checksumMismatch_iff {computed received : UInt16} :
    kind.decode buffer = .error (.checksumMismatch computed received) ↔
      kind.wireLength ≤ buffer.length ∧ computed = checksum (buffer.take kind.bodyLength) ∧
        received = LittleEndian.decode16 (buffer.drop kind.bodyLength) ∧ received ≠ computed := by
  obtain ⟨hlen, h⟩ | ⟨hlen, hsum, h⟩ | ⟨first, hlen, hsum, hfirst, ⟨hid, h⟩ | ⟨hid, h⟩⟩ :=
    kind.decode_cases buffer
  · simp [h, Nat.not_le.mpr hlen]
  · rw [h]
    constructor
    · rintro ⟨⟩
      exact ⟨hlen, rfl, rfl, hsum⟩
    · rintro ⟨_, rfl, rfl, _⟩
      rfl
  all_goals
    rw [h]
    constructor
    · rintro ⟨⟩
    · rintro ⟨_, rfl, rfl, hne⟩
      exact absurd hsum hne

lemma decode_eq_idMismatch_iff {expected found : UInt8} :
    kind.decode buffer = .error (.idMismatch expected found) ↔
      kind.wireLength ≤ buffer.length ∧ kind.Checked buffer ∧ expected = kind.id ∧
        buffer.head? = some found ∧ found ≠ kind.id := by
  obtain ⟨hlen, h⟩ | ⟨hlen, hsum, h⟩ | ⟨first, hlen, hsum, hfirst, ⟨hid, h⟩ | ⟨hid, h⟩⟩ :=
    kind.decode_cases buffer
  · simp [h, Nat.not_le.mpr hlen]
  · simp [h, hsum]
  · rw [h, hfirst]
    constructor
    · rintro ⟨⟩
      exact ⟨hlen, hsum, rfl, rfl, hid⟩
    · rintro ⟨_, _, rfl, ⟨⟩, _⟩
      rfl
  · rw [h, hfirst]
    constructor
    · rintro ⟨⟩
    · rintro ⟨_, _, _, ⟨⟩, hne⟩
      exact absurd hid hne

lemma decode_ne_unknownId {id : UInt8} : kind.decode buffer ≠ .error (.unknownId id) := by
  obtain ⟨_, h⟩ | ⟨_, _, h⟩ | ⟨_, _, _, _, ⟨_, h⟩ | ⟨_, h⟩⟩ := kind.decode_cases buffer <;> simp [h]

lemma decode_take (hlen : kind.wireLength ≤ buffer.length) :
    kind.decode (buffer.take kind.wireLength) = kind.decode buffer := by
  have hle : kind.bodyLength ≤ kind.wireLength := Nat.sub_le _ _
  have hbody :
      (buffer.take kind.wireLength).take kind.bodyLength = buffer.take kind.bodyLength := by
    rw [List.take_take, Nat.min_eq_left hle]
  have hstored : LittleEndian.decode16 ((buffer.take kind.wireLength).drop kind.bodyLength) =
      LittleEndian.decode16 (buffer.drop kind.bodyLength) := by
    rw [List.drop_take, wireLength_eq, Nat.add_sub_cancel_left, LittleEndian.decode16_take]
  have hhead : (buffer.take kind.wireLength).headD 0 = buffer.headD 0 := by
    cases buffer <;> rfl
  have hsum : kind.Checked (buffer.take kind.wireLength) ↔ kind.Checked buffer := by
    rw [Checked, Checked, hbody, hstored]
  rw [decode_eq, decode_eq, hbody, hstored, hhead, List.length_take_of_le hlen,
    if_neg (Nat.lt_irrefl _), if_neg (Nat.not_lt.mpr hlen)]
  simp only [hsum]

lemma exists_parts_of_length {frame : List UInt8} (h : frame.length = kind.wireLength) :
    ∃ id payload low high, frame = id :: payload ++ [low, high] ∧
      payload.length = Field.payloadLength kind.fields := by
  rw [wireLength_eq, bodyLength_eq] at h
  cases frame with
  | nil => simp at h
  | cons id rest =>
    rw [List.length_cons] at h
    have hlen : (rest.drop (Field.payloadLength kind.fields)).length = 2 := by
      rw [List.length_drop]
      omega
    obtain ⟨low, high, hsum⟩ := List.length_eq_two.mp hlen
    refine ⟨id, rest.take (Field.payloadLength kind.fields), low, high, ?_, ?_⟩
    · rw [List.cons_append, ← hsum, List.take_append_drop]
    · rw [List.length_take]
      omega

lemma decode_parts {payload : List UInt8}
    (hpayload : payload.length = Field.payloadLength kind.fields)
    (id low high : UInt8) :
    kind.decode (id :: payload ++ [low, high]) =
      if LittleEndian.decode16 [low, high] ≠ checksum (id :: payload) then
        .error (.checksumMismatch (checksum (id :: payload)) (LittleEndian.decode16 [low, high]))
      else if id ≠ kind.id then .error (.idMismatch kind.id id)
      else .ok ⟨kind, Record.decode kind.fields payload⟩ := by
  have hbody : (id :: payload).length = kind.bodyLength := by
    rw [bodyLength_eq, List.length_cons, hpayload, Nat.add_comm]
  have hlen : ¬(id :: payload ++ [low, high]).length < kind.wireLength := by
    rw [List.length_append, hbody]
    exact Nat.lt_irrefl _
  unfold decode
  dsimp only
  rw [if_neg hlen, List.take_left' hbody, List.drop_left' hbody]
  rfl

end Decode

end Kind

namespace Message

lemma decodeAs_cases (id : UInt8) (buffer : List UInt8) :
    3 < id ∧ decodeAs id buffer = .error (.unknownId id) ∨
      ∃ kind : Kind, kind.id = id ∧ decodeAs id buffer = kind.decode buffer := by
  by_cases hid : 3 < id
  · refine .inl ⟨hid, ?_⟩
    cases hkind : Kind.ofId? id with
    | none => rw [decodeAs, hkind]
    | some kind =>
      exact absurd hid (Kind.exists_id_eq_iff.mp ⟨kind, Kind.ofId?_eq_some_iff.mp hkind⟩)
  · obtain ⟨kind, rfl⟩ := Kind.exists_id_eq_iff.mpr hid
    exact .inr ⟨kind, rfl, decodeAs_kind_id kind buffer⟩

lemma decodeAs_eq_unknownId_iff {id unknown : UInt8} {buffer : List UInt8} :
    decodeAs id buffer = .error (.unknownId unknown) ↔ 3 < id ∧ unknown = id := by
  obtain ⟨hid, h⟩ | ⟨kind, rfl, h⟩ := decodeAs_cases id buffer
  · simp [h, hid, eq_comm]
  · have hid : ¬3 < kind.id := Kind.exists_id_eq_iff.mp ⟨kind, rfl⟩
    simp [h, hid, Kind.decode_ne_unknownId]

lemma decodeAs_eq_iff {id : UInt8} {buffer : List UInt8} {result : Except FrameError Message}
    (hresult : result ≠ .error (.unknownId id)) :
    decodeAs id buffer = result ↔ ∃ kind : Kind, kind.id = id ∧ kind.decode buffer = result := by
  constructor
  · rintro rfl
    obtain ⟨_, h⟩ | ⟨kind, hid, h⟩ := decodeAs_cases id buffer
    · exact absurd h hresult
    · exact ⟨kind, hid, h.symm⟩
  · rintro ⟨kind, rfl, rfl⟩
    exact decodeAs_kind_id kind buffer

lemma decode_ne_idMismatch {buffer : List UInt8} {expected found : UInt8} :
    decode buffer ≠ .error (.idMismatch expected found) := by
  cases buffer with
  | nil => simp [decode]
  | cons first rest =>
    intro h
    obtain ⟨kind, hid, hdecode⟩ := (decodeAs_eq_iff (by simp)).mp h
    obtain ⟨_, _, _, hfirst, hne⟩ := Kind.decode_eq_idMismatch_iff.mp hdecode
    exact hne ((Option.some.inj hfirst).symm.trans hid.symm)

lemma decodeAs_eq_ok_iff_decode {id : UInt8} {buffer : List UInt8} {message : Message} :
    decodeAs id buffer = .ok message ↔ decode buffer = .ok message ∧ buffer.head? = some id := by
  constructor
  · intro h
    obtain ⟨kind, rfl, hdecode⟩ := decodeAs_eq_ok_iff.mp h
    obtain ⟨hlen, _, hhead, _⟩ := Kind.decode_eq_ok_iff.mp hdecode
    cases buffer with
    | nil => exact absurd hlen (Nat.not_le.mpr (Nat.zero_lt_succ _))
    | cons first rest =>
      obtain rfl : first = kind.id := hhead
      exact ⟨h, rfl⟩
  · rintro ⟨h, hhead⟩
    cases buffer with
    | nil => simp at hhead
    | cons first rest =>
      obtain rfl : first = id := Option.some.inj hhead
      exact h

/-- The outcome of a reception with a given id, for every id and buffer, and how the receiver that
takes the id from the buffer differs. -/
theorem reception_outcomes (id : UInt8) (buffer : List UInt8) :
    (∀ unknown, decodeAs id buffer = .error (.unknownId unknown) ↔ 3 < id ∧ unknown = id) ∧
    (∀ needed available, decodeAs id buffer = .error (.insufficientBuffer needed available) ↔
      ∃ kind : Kind, kind.id = id ∧ buffer.length < kind.wireLength ∧
        needed = kind.wireLength ∧ available = buffer.length) ∧
    (∀ computed received, decodeAs id buffer = .error (.checksumMismatch computed received) ↔
      ∃ kind : Kind, kind.id = id ∧ kind.wireLength ≤ buffer.length ∧
        computed = checksum (buffer.take (kind.wireLength - 2)) ∧
        received = LittleEndian.decode16 (buffer.drop (kind.wireLength - 2)) ∧
        received ≠ computed) ∧
    (∀ expected found, decodeAs id buffer = .error (.idMismatch expected found) ↔
      ∃ kind : Kind, kind.id = id ∧ kind.wireLength ≤ buffer.length ∧
        LittleEndian.decode16 (buffer.drop (kind.wireLength - 2)) =
          checksum (buffer.take (kind.wireLength - 2)) ∧
        expected = id ∧ buffer.head? = some found ∧ found ≠ id) ∧
    (∀ kind : Kind, (∃ message, decodeAs id buffer = .ok message ∧ message.kind = kind) ↔
      kind.id = id ∧ kind.wireLength ≤ buffer.length ∧
        LittleEndian.decode16 (buffer.drop (kind.wireLength - 2)) =
          checksum (buffer.take (kind.wireLength - 2)) ∧
        buffer.head? = some id) ∧
    (∀ kind : Kind, kind.id = id → kind.wireLength ≤ buffer.length →
      decodeAs id buffer = decodeAs id (buffer.take kind.wireLength)) ∧
    decode [] = .error (.insufficientBuffer 1 0) ∧
    (∀ rest, buffer = id :: rest → decode buffer = decodeAs id buffer) ∧
    (∀ expected found, decode buffer ≠ .error (.idMismatch expected found)) ∧
    ∀ message, decodeAs id buffer = .ok message ↔
      decode buffer = .ok message ∧ buffer.head? = some id := by
  refine ⟨fun _ => decodeAs_eq_unknownId_iff, ?_, ?_, ?_, ?_, ?_, rfl, ?_,
    fun _ _ => decode_ne_idMismatch, fun _ => decodeAs_eq_ok_iff_decode⟩
  · intro needed available
    rw [decodeAs_eq_iff (by simp)]
    simp only [Kind.decode_eq_insufficientBuffer_iff]
  · intro computed received
    rw [decodeAs_eq_iff (by simp)]
    simp only [Kind.decode_eq_checksumMismatch_iff]
    rfl
  · intro expected found
    rw [decodeAs_eq_iff (by simp)]
    apply exists_congr
    intro kind
    apply and_congr_right
    rintro rfl
    exact Kind.decode_eq_idMismatch_iff
  · intro kind
    constructor
    · rintro ⟨message, h, rfl⟩
      obtain ⟨kind, rfl, hdecode⟩ := decodeAs_eq_ok_iff.mp h
      obtain ⟨hlen, hsum, _, rfl⟩ := Kind.decode_eq_ok_iff.mp hdecode
      exact ⟨rfl, hlen, hsum, (decodeAs_eq_ok_iff_decode.mp h).2⟩
    · rintro ⟨rfl, hlen, hsum, hhead⟩
      have hid : buffer.headD 0 = kind.id := by
        rw [List.headD_eq_head?_getD, hhead, Option.getD_some]
      refine ⟨kind.read (buffer.take kind.bodyLength), ?_, rfl⟩
      rw [decodeAs_kind_id]
      exact Kind.decode_eq_ok_iff.mpr ⟨hlen, hsum, hid, rfl⟩
  · rintro kind rfl hlen
    rw [decodeAs_kind_id, decodeAs_kind_id, Kind.decode_take hlen]
  · rintro rest rfl
    rfl

/-- A frame with the right checksum under a foreign id is recognised as such, bytes after it or not,
while one damaged byte more is reported as damage. -/
theorem reception_outcomes_foreign_id :
    Kind.upSpeedReport.wireLength ≤ [7, 0, 0, 0, 0, 35, 7, 9].length ∧
      decodeAs 3 [7, 0, 0, 0, 0, 35, 7, 9] = .error (.idMismatch 3 7) ∧
      decodeAs 3 [7, 0, 0, 0, 0, 35, 7, 9] = decodeAs 3 [7, 0, 0, 0, 0, 35, 7] ∧
      decodeAs 3 [7, 1, 0, 0, 0, 35, 7] = .error (.checksumMismatch 0x0827 0x0723) := by
  have hlen : Kind.upSpeedReport.wireLength ≤ [7, 0, 0, 0, 0, 35, 7, 9].length := by decide
  obtain ⟨_, _, _, hforeign, _, htake, _⟩ := reception_outcomes 3 [7, 0, 0, 0, 0, 35, 7, 9]
  obtain ⟨_, _, hdamaged, _⟩ := reception_outcomes 3 [7, 1, 0, 0, 0, 35, 7]
  exact ⟨hlen,
    (hforeign 3 7).mpr ⟨.upSpeedReport, rfl, hlen, by decide, rfl, rfl, by decide⟩,
    htake .upSpeedReport rfl hlen,
    (hdamaged _ _).mpr ⟨.upSpeedReport, rfl, by decide, by decide, by decide, by decide⟩⟩

end Message

end Fieldbus
