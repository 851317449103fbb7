import Fieldbus.Message.Frame
import Mathlib.Tactic.Lemma
import Mathlib.Tactic.SplitIfs

/-!
# The checks of a receiver

A receiver for one kind checks length, checksum and id in this order, and reads the fields of what
passes. A receiver that is given an id, or takes it from the first byte, is the receiver for the
kind with that id.
-/

namespace Fieldbus

namespace Kind

lemma wireLength_eq (kind : Kind) : kind.wireLength = kind.bodyLength + 2 := rfl

lemma bodyLength_eq (kind : Kind) : kind.bodyLength = 1 + Field.payloadLength kind.fields := rfl

lemma ofId?_id (kind : Kind) : ofId? kind.id = some kind := by
  cases kind <;> rfl

lemma ofId?_eq_some_iff {id : UInt8} {kind : Kind} : ofId? id = some kind ↔ kind.id = id := by
  constructor
  · intro h
    simpa using List.find?_some h
  · rintro rfl
    exact kind.ofId?_id

/-- The two bytes after the body hold the checksum of the body. -/
def Checked (kind : Kind) (buffer : List UInt8) : Prop :=
  LittleEndian.decode16 (buffer.drop kind.bodyLength) = checksum (buffer.take kind.bodyLength)

instance (kind : Kind) (buffer : List UInt8) : Decidable (kind.Checked buffer) :=
  inferInstanceAs (Decidable (_ = _))

lemma decode_eq (kind : Kind) (buffer : List UInt8) :
    kind.decode buffer =
      if buffer.length < kind.wireLength then
        .error (.insufficientBuffer kind.wireLength buffer.length)
      else if ¬kind.Checked buffer then
        .error (.checksumMismatch (checksum (buffer.take kind.bodyLength))
          (LittleEndian.decode16 (buffer.drop kind.bodyLength)))
      else if buffer.headD 0 ≠ kind.id then .error (.idMismatch kind.id (buffer.headD 0))
      else .ok (kind.read (buffer.take kind.bodyLength)) := by
  have hhead : (buffer.take kind.bodyLength).headD 0 = buffer.headD 0 := by
    -- the id lies in the body, however short the fields
    rw [bodyLength_eq, Nat.add_comm]
    cases buffer <;> rfl
  unfold decode
  dsimp only
  rw [hhead]
  rfl

lemma decode_eq_ok_iff {kind : Kind} {buffer : List UInt8} {message : Message} :
    kind.decode buffer = .ok message ↔
      kind.wireLength ≤ buffer.length ∧ kind.Checked buffer ∧ buffer.headD 0 = kind.id ∧
        kind.read (buffer.take kind.bodyLength) = message := by
  rw [decode_eq]
  constructor
  · intro h
    split_ifs at h with hlen hsum hid
    exact ⟨Nat.not_lt.mp hlen, hsum, Decidable.not_not.mp hid, Except.ok.inj h⟩
  · rintro ⟨hlen, hsum, hid, rfl⟩
    rw [if_neg (Nat.not_lt.mpr hlen), if_neg (not_not_intro hsum), if_neg (not_not_intro hid)]

lemma decode_of_not_checked {kind : Kind} {buffer : List UInt8}
    (hlen : kind.wireLength ≤ buffer.length) (h : ¬kind.Checked buffer) :
    kind.decode buffer = .error (.checksumMismatch (checksum (buffer.take kind.bodyLength))
      (LittleEndian.decode16 (buffer.drop kind.bodyLength))) := by
  rw [decode_eq, if_neg (Nat.not_lt.mpr hlen), if_pos h]

lemma read_of_decode {kind : Kind} {buffer : List UInt8} {message : Message}
    (h : kind.decode buffer = .ok message) : ∃ frame, message = kind.read frame := by
  obtain ⟨_, _, _, hread⟩ := decode_eq_ok_iff.mp h
  exact ⟨_, hread.symm⟩

end Kind

namespace Message

lemma decodeAs_kind_id (kind : Kind) (buffer : List UInt8) :
    decodeAs kind.id buffer = kind.decode buffer := by
  rw [decodeAs, kind.ofId?_id]

lemma decode_kind_id (kind : Kind) (rest : List UInt8) :
    decode (kind.id :: rest) = kind.decode (kind.id :: rest) := decodeAs_kind_id kind _

lemma decodeAs_eq_ok_iff {id : UInt8} {buffer : List UInt8} {message : Message} :
    decodeAs id buffer = .ok message ↔
      ∃ kind : Kind, kind.id = id ∧ kind.decode buffer = .ok message := by
  constructor
  · intro h
    cases hkind : Kind.ofId? id with
    | none => simp [decodeAs, hkind] at h
    | some kind =>
      rw [decodeAs, hkind] at h
      exact ⟨kind, Kind.ofId?_eq_some_iff.mp hkind, h⟩
  · rintro ⟨kind, rfl, h⟩
    rwa [decodeAs_kind_id]

end Message

end Fieldbus
