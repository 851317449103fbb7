import Fieldbus.Proofs.FrameRoundTrip
import Fieldbus.Proofs.WeightedSums
import Mathlib.Data.Nat.Bitwise
import Mathlib.RingTheory.Coprime.Lemmas
import Mathlib.Tactic.LinearCombination

/-!
# Inverted bits in a frame

A frame passes the checksum only if two sums over its bytes, the stored checksum counted negatively,
are multiples of 255. An inverted bit moves both sums by a power of two times the weights of its
byte. Powers of two are invertible modulo 255 and the weights of two bytes of a short frame are
never proportional, so that a receiver for one kind notices one inverted bit and two of them
anywhere in its frame. A receiver that takes the kind from the first byte checks another stretch of
the frame when a bit of that byte is inverted, and the exact condition for it to be misled is given.
-/

namespace Fieldbus

/-- The bytes with one bit inverted. Bits are counted from the low bit of the first byte on. -/
def flipBit (position : Nat) (bytes : List UInt8) : List UInt8 :=
  bytes.modify (position / 8) (· ^^^ 1 <<< UInt8.ofNat (position % 8))

/-- One bit, or two different ones, are inverted among the first `length` bytes. -/
inductive BitError (length : Nat) (sent : List UInt8) : List UInt8 → Prop where
  | one {p : Nat} (hp : p < 8 * length) : BitError length sent (flipBit p sent)
  | two {p q : Nat} (hp : p < 8 * length) (hq : q < 8 * length) (hpq : p ≠ q) :
      BitError length sent (flipBit q (flipBit p sent))

@[simp] lemma length_flipBit (position : Nat) (bytes : List UInt8) :
    (flipBit position bytes).length = bytes.length := List.length_modify ..

lemma xor_one (n : Nat) : n ^^^ 1 = n + 1 ∨ (n ^^^ 1) + 1 = n := by
  have hdiv : (n ^^^ 1) / 2 = n / 2 := by
    have h := Nat.xor_div_two_pow (a := n) (b := 1) (n := 1)
    simpa using h
  have hmod : (n ^^^ 1) % 2 = (n + 1) % 2 := Nat.xor_mod_two_eq
  omega

lemma xor_two_pow (n k : Nat) : n ^^^ 2 ^ k = n + 2 ^ k ∨ (n ^^^ 2 ^ k) + 2 ^ k = n := by
  have hpos : 0 < 2 ^ k := Nat.two_pow_pos k
  have hdiv : (n ^^^ 2 ^ k) / 2 ^ k = n / 2 ^ k ^^^ 1 := by
    rw [Nat.xor_div_two_pow, Nat.div_self hpos]
  have hmod : (n ^^^ 2 ^ k) % 2 ^ k = n % 2 ^ k := by
    rw [Nat.xor_mod_two_pow, Nat.mod_self, Nat.xor_zero]
  have hflip := Nat.div_add_mod (n ^^^ 2 ^ k) (2 ^ k)
  have hn := Nat.div_add_mod n (2 ^ k)
  rw [hdiv, hmod] at hflip
  obtain h | h := xor_one (n / 2 ^ k)
  · left
    rw [h, Nat.mul_add] at hflip
    omega
  · right
    rw [← h, Nat.mul_add] at hn
    omega

/-- What inverting the bit `k` of a byte can add to it. -/
def IsBitChange (k : Nat) (change : Int) : Prop := change = 2 ^ k ∨ change = -2 ^ k

lemma isBitChange_xor (byte : UInt8) {k : Nat} (hk : k < 8) :
    IsBitChange k ((byte ^^^ 1 <<< UInt8.ofNat k).toNat - byte.toNat) := by
  have hbit : (1 <<< UInt8.ofNat k : UInt8).toNat = 2 ^ k := by
    have hpow : 2 ^ k ≤ 2 ^ 7 := Nat.pow_le_pow_right (by decide) (by omega)
    rw [UInt8.toNat_shiftLeft, UInt8.toNat_ofNat', Nat.shiftLeft_eq]
    simp only [UInt8.reduceToNat, Nat.one_mul]
    rw [Nat.mod_eq_of_lt (show k < 2 ^ 8 by omega), Nat.mod_eq_of_lt hk]
    exact Nat.mod_eq_of_lt (hpow.trans_lt (by decide))
  rw [UInt8.toNat_xor, hbit]
  obtain h | h := xor_two_pow byte.toNat k
  · left
    push_cast [h]
    ring
  · right
    have hcast : ((byte.toNat ^^^ 2 ^ k : Nat) : Int) + 2 ^ k = byte.toNat := by exact_mod_cast h
    linear_combination hcast

lemma weigh_flipBit {position : Nat} {bytes : List UInt8} (h : position < 8 * bytes.length) :
    ∃ change : Int, IsBitChange (position % 8) change ∧ ∀ weight : Nat → Int,
      weigh weight (flipBit position bytes) =
        weigh weight bytes + weight (position / 8) * change := by
  have hbyte : position / 8 < bytes.length := by omega
  exact ⟨_, isBitChange_xor bytes[position / 8] (Nat.mod_lt _ (by decide)),
    fun weight => weigh_modify weight _ hbyte⟩

/-! ### What an inverted bit does to the checksum -/

/-- The weights of a frame with `n` bytes before its checksum in the plain sum, less the byte that
stores it. -/
def plainWeight (n i : Nat) : Int := if i < n then 1 else if i = n + 1 then -1 else 0

/-- The weights of a frame with `n` bytes before its checksum in the weighted sum, less the byte
that stores it. -/
def slopeWeight (n i : Nat) : Int := if i < n then n - i else if i = n then -1 else 0

section Weights

variable {n i : Nat}

lemma plainWeight_body (h : i < n) : plainWeight n i = 1 := if_pos h

lemma plainWeight_low : plainWeight n n = 0 := by simp [plainWeight]

lemma plainWeight_high : plainWeight n (n + 1) = -1 := by simp [plainWeight]

lemma plainWeight_past (h : n + 2 ≤ i) : plainWeight n i = 0 := by
  rw [plainWeight, if_neg (by omega), if_neg (by omega)]

lemma slopeWeight_body (h : i < n) : slopeWeight n i = n - i := if_pos h

lemma slopeWeight_low : slopeWeight n n = -1 := by simp [slopeWeight]

lemma slopeWeight_high : slopeWeight n (n + 1) = 0 := by simp [slopeWeight]

lemma slopeWeight_past (h : n + 2 ≤ i) : slopeWeight n i = 0 := by
  rw [slopeWeight, if_neg (by omega), if_neg (by omega)]

end Weights

lemma weigh_frame {weight : Nat → Int} {n : Nat} {bytes : List UInt8} (h : n + 2 ≤ bytes.length)
    (hzero : ∀ i, n + 2 ≤ i → weight i = 0) :
    weigh weight bytes = weigh weight (bytes.take n) +
      weight n * ((bytes.drop n).getD 0 0).toNat +
      weight (n + 1) * ((bytes.drop n).getD 1 0).toNat := by
  have htake : (bytes.take n).length = n := List.length_take_of_le (by omega)
  have hdrop : bytes.drop n = bytes[n] :: bytes[n + 1] :: bytes.drop (n + 1 + 1) := by
    rw [List.drop_eq_getElem_cons (by omega), List.drop_eq_getElem_cons (by omega)]
  have hrest : weigh (fun i => weight (n + (i + 1 + 1))) (bytes.drop (n + 1 + 1)) = 0 := by
    apply weigh_eq_zero
    intro i _
    exact hzero _ (by omega)
  conv_lhs => rw [← List.take_append_drop n bytes]
  rw [weigh_append, htake, hdrop, weigh, weigh, hrest, List.getD_cons_zero, List.getD_cons_succ,
    List.getD_cons_zero, Nat.add_zero, Nat.zero_add]
  ring

/-- In a frame with the right checksum both sums are multiples of 255. -/
lemma dvd_of_stored_checksum {n : Nat} {bytes : List UInt8} (h : n + 2 ≤ bytes.length)
    (hsum : LittleEndian.decode16 (bytes.drop n) = checksum (bytes.take n)) :
    255 ∣ weigh (plainWeight n) bytes ∧ 255 ∣ weigh (slopeWeight n) bytes := by
  have htake : (bytes.take n).length = n := List.length_take_of_le (by omega)
  obtain ⟨hslope, hplain⟩ := modEq_of_decode16_eq_checksum hsum
  rw [htake] at hslope
  constructor
  · have hbody : weigh (plainWeight n) (bytes.take n) = weigh (fun _ => 1) (bytes.take n) :=
      weigh_congr fun i hi => plainWeight_body (by omega)
    rw [weigh_frame h fun _ => plainWeight_past, hbody, plainWeight_low, plainWeight_high]
    convert hplain.dvd using 1
    ring
  · have hbody : weigh (slopeWeight n) (bytes.take n) = weigh (fun i => n - i) (bytes.take n) :=
      weigh_congr fun i hi => slopeWeight_body (by omega)
    rw [weigh_frame h fun _ => slopeWeight_past, hbody, slopeWeight_low, slopeWeight_high]
    convert hslope.dvd using 1
    ring

lemma IsBitChange.dvd_of_dvd_mul {k : Nat} {w change : Int} (hchange : IsBitChange k change)
    (h : 255 ∣ w * change) : 255 ∣ w := by
  have hcoprime : IsCoprime (255 : Int) (2 ^ k) := IsCoprime.pow_right ⟨1, -127, by norm_num⟩
  obtain rfl | rfl := hchange
  · exact hcoprime.dvd_of_dvd_mul_right h
  · rw [mul_neg, dvd_neg] at h
    exact hcoprime.dvd_of_dvd_mul_right h

lemma IsBitChange.eq_of_dvd_add {j k : Nat} (hj : j < 8) (hk : k < 8) {u v : Int}
    (hu : IsBitChange j u) (hv : IsBitChange k v) (h : 255 ∣ u + v) : j = k := by
  -- eight bits with two signs each leave few sums, and none but the trivial ones is 0 or ±255
  have hall : ∀ j k : Fin 8, ∀ s t : Fin 2,
      (255 : Int) ∣ (-1) ^ s.val * 2 ^ j.val + (-1) ^ t.val * 2 ^ k.val → j = k := by decide
  have hsign {k : Nat} {w : Int} (hw : IsBitChange k w) :
      ∃ s : Fin 2, w = (-1) ^ s.val * 2 ^ k := by
    obtain rfl | rfl := hw
    · exact ⟨0, by simp⟩
    · exact ⟨1, by simp⟩
  obtain ⟨s, rfl⟩ := hsign hu
  obtain ⟨t, rfl⟩ := hsign hv
  exact congrArg Fin.val (hall ⟨j, hj⟩ ⟨k, hk⟩ s t h)

lemma dvd_of_dvd_weights {n i : Nat} (hi : i < n + 2) {x : Int}
    (hplain : 255 ∣ plainWeight n i * x) (hslope : 255 ∣ slopeWeight n i * x) : 255 ∣ x := by
  obtain h | rfl | rfl : i < n ∨ i = n ∨ i = n + 1 := by omega
  · simpa [plainWeight_body h] using hplain
  · simpa [slopeWeight_low] using hslope
  · simpa [plainWeight_high] using hplain

lemma not_dvd_weights {n i j : Nat} (hn : n < 255) (hi : i < n + 2) (hj : j < n + 2) (hij : i ≠ j) :
    ¬(255 : Int) ∣ plainWeight n i * slopeWeight n j - plainWeight n j * slopeWeight n i := by
  -- up to sign the difference is a distance between two places, or one, hence below 255
  wlog hlt : i < j generalizing i j
  · have hswap := this hj hi hij.symm (by omega)
    rwa [← neg_sub, dvd_neg]
  obtain hj' | hj' | hj' : j < n ∨ j = n ∨ j = n + 1 := by omega
  · have hi' : i < n := by omega
    rw [plainWeight_body hi', plainWeight_body hj', slopeWeight_body hi', slopeWeight_body hj']
    omega
  · have hi' : i < n := by omega
    rw [hj', plainWeight_body hi', slopeWeight_body hi', plainWeight_low, slopeWeight_low]
    omega
  · rw [hj', plainWeight_high, slopeWeight_high]
    obtain hi' | rfl : i < n ∨ i = n := by omega
    · rw [plainWeight_body hi', slopeWeight_body hi']
      omega
    · rw [plainWeight_low, slopeWeight_low]
      omega

/-- One inverted bit or two of them anywhere in a frame with the right checksum leave it with a
wrong one, as long as fewer than 255 bytes stand before the checksum. -/
lemma checksum_ne_of_bitError {n : Nat} (hn : n < 255) {sent received : List UInt8}
    (hlen : n + 2 ≤ sent.length)
    (hsent : LittleEndian.decode16 (sent.drop n) = checksum (sent.take n))
    (herror : BitError (n + 2) sent received) :
    LittleEndian.decode16 (received.drop n) ≠ checksum (received.take n) := by
  intro hreceived
  obtain ⟨hplain, hslope⟩ := dvd_of_stored_checksum hlen hsent
  cases herror with
  | @one p hp =>
    obtain ⟨u, hu, hweigh⟩ := weigh_flipBit (show p < 8 * sent.length by omega)
    obtain ⟨hplain', hslope'⟩ := dvd_of_stored_checksum (by simpa using hlen) hreceived
    rw [hweigh] at hplain' hslope'
    have hdvd : 255 ∣ u := dvd_of_dvd_weights (show p / 8 < n + 2 by omega)
      ((dvd_add_right hplain).mp hplain') ((dvd_add_right hslope).mp hslope')
    have hone : (255 : Int) ∣ 1 := hu.dvd_of_dvd_mul (by rwa [one_mul])
    omega
  | @two p q hp hq hpq =>
    obtain ⟨u, hu, hweigh⟩ := weigh_flipBit (show p < 8 * sent.length by omega)
    obtain ⟨v, hv, hweigh'⟩ := weigh_flipBit
      (show q < 8 * (flipBit p sent).length by rw [length_flipBit]; omega)
    obtain ⟨hplain', hslope'⟩ := dvd_of_stored_checksum (by simpa using hlen) hreceived
    rw [hweigh', hweigh, add_assoc] at hplain' hslope'
    have hplainSum := (dvd_add_right hplain).mp hplain'
    have hslopeSum := (dvd_add_right hslope).mp hslope'
    by_cases hbyte : p / 8 = q / 8
    · rw [hbyte, ← mul_add] at hplainSum hslopeSum
      have hdvd := dvd_of_dvd_weights (show q / 8 < n + 2 by omega) hplainSum hslopeSum
      have hbit := IsBitChange.eq_of_dvd_add (by omega) (by omega) hu hv hdvd
      omega
    · -- eliminate the second change from the two sums
      have heq : (plainWeight n (p / 8) * slopeWeight n (q / 8) -
          plainWeight n (q / 8) * slopeWeight n (p / 8)) * u =
          slopeWeight n (q / 8) * (plainWeight n (p / 8) * u + plainWeight n (q / 8) * v) -
            plainWeight n (q / 8) * (slopeWeight n (p / 8) * u + slopeWeight n (q / 8) * v) := by
        ring
      have hdet := dvd_sub (hplainSum.mul_left (slopeWeight n (q / 8)))
        (hslopeSum.mul_left (plainWeight n (q / 8)))
      rw [← heq] at hdet
      exact not_dvd_weights hn (by omega) (by omega) hbyte (hu.dvd_of_dvd_mul hdet)

lemma BitError.length_eq {length : Nat} {sent received : List UInt8}
    (h : BitError length sent received) : received.length = sent.length := by
  cases h <;> simp

namespace Kind

lemma bodyLength_lt (kind : Kind) : kind.bodyLength < 255 := by
  cases kind <;> decide

lemma not_checked_of_bitError {kind : Kind} {sent received : List UInt8}
    (hlen : kind.wireLength ≤ sent.length) (hsent : kind.Checked sent)
    (herror : BitError kind.wireLength sent received) : ¬kind.Checked received :=
  checksum_ne_of_bitError kind.bodyLength_lt hlen hsent herror

/-- A receiver for one kind rejects every buffer that it would accept but for one inverted bit or
two different ones in the frame, and reports the checksum of the damaged bytes and the damaged
checksum. -/
theorem decode_of_bitError {kind : Kind} {sent received : List UInt8} {message : Message}
    (hsent : kind.decode sent = .ok message)
    (herror : BitError kind.wireLength sent received) :
    kind.decode received =
      .error (.checksumMismatch (checksum (received.take kind.bodyLength))
        (LittleEndian.decode16 (received.drop kind.bodyLength))) := by
  obtain ⟨hlen, hchecked, _, _⟩ := decode_eq_ok_iff.mp hsent
  apply decode_of_not_checked
  · rw [herror.length_eq]
    exact hlen
  · exact not_checked_of_bitError hlen hchecked herror

theorem decode_of_bitError_report :
    Kind.upSpeedReport.decode [3, 200, 0, 0, 0, 50, 203, 99] =
        .ok ((Message.fresh .upSpeedReport).run [.put "vtheta" (.int 10)]) ∧
      flipBit 48 (flipBit 1 [3, 200, 0, 0, 0, 50, 203, 99]) = [1, 200, 0, 0, 0, 50, 202, 99] ∧
      Kind.upSpeedReport.decode [1, 200, 0, 0, 0, 50, 202, 99] =
        .error (.checksumMismatch 0xC928 0xCA32) := by
  have hsent : Kind.upSpeedReport.decode [3, 200, 0, 0, 0, 50, 203, 99] =
      .ok ((Message.fresh .upSpeedReport).run [.put "vtheta" (.int 10)]) := rfl
  exact ⟨hsent, by decide,
    decode_of_bitError hsent (.two (p := 1) (q := 48) (by decide) (by decide) (by decide))⟩

lemma eq_of_wireLength_eq {kind other : Kind} (h : kind.wireLength = other.wireLength) :
    kind = other := by
  revert h
  cases kind <;> cases other <;> decide

end Kind

namespace Message

/-- The start of a message's frame is a frame of a shorter kind, but for the id: where the shorter
frame has its checksum, the fields happen to hold it. -/
def Mimics (message : Message) (other : Kind) : Prop :=
  other.wireLength < message.wireLength ∧
    LittleEndian.decode16 (message.encode.drop other.bodyLength) =
      checksum (other.id :: message.record.encode.take (Field.payloadLength other.fields))

instance (message : Message) (other : Kind) : Decidable (message.Mimics other) :=
  inferInstanceAs (Decidable (_ ∧ _))

lemma decode_flipBit_of_le {message : Message} {position : Nat} (hlow : 8 ≤ position)
    (h : position < 8 * message.encode.length) :
    ∃ fault, decode (flipBit position message.encode) = .error fault := by
  have hchecked := message.checked_encode []
  have hlen := message.length_encode
  rw [List.append_nil] at hchecked
  have herror : BitError message.kind.wireLength message.encode
      (flipBit position message.encode) := .one (by rwa [hlen] at h)
  have hdecode : decode (flipBit position message.encode) =
      message.kind.decode (flipBit position message.encode) := by
    obtain ⟨i, hi⟩ : ∃ i, position / 8 = i + 1 := ⟨position / 8 - 1, by omega⟩
    rw [flipBit, hi, encode, body, List.cons_append, List.modify_succ_cons]
    exact decode_kind_id message.kind _
  rw [hdecode, Kind.decode_of_not_checked (by rw [herror.length_eq, hlen]; rfl)
    (Kind.not_checked_of_bitError hlen.ge hchecked herror)]
  exact ⟨_, rfl⟩

lemma exists_decode_encode_tail {message : Message} {other : Kind} (hne : other ≠ message.kind) :
    (∃ received, other.decode (other.id :: message.encode.tail) = .ok received) ↔
      message.Mimics other := by
  have hlength : (other.id :: message.encode.tail).length = message.wireLength :=
    message.length_encode
  have hdrop : (other.id :: message.encode.tail).drop other.bodyLength =
      message.encode.drop other.bodyLength := by
    rw [Kind.bodyLength_eq, Nat.add_comm]
    rfl
  have htake (hlt : other.wireLength < message.wireLength) :
      (other.id :: message.encode.tail).take other.bodyLength =
        other.id :: message.record.encode.take (Field.payloadLength other.fields) := by
    have hfits : Field.payloadLength other.fields ≤ message.record.encode.length := by
      rw [wireLength, Kind.wireLength_eq, Kind.wireLength_eq, Kind.bodyLength_eq,
        Kind.bodyLength_eq] at hlt
      rw [Record.length_encode]
      omega
    rw [Kind.bodyLength_eq, Nat.add_comm, List.take_succ_cons, encode, body, List.cons_append,
      List.tail_cons, List.take_append_of_le_length hfits]
  constructor
  · rintro ⟨received, h⟩
    obtain ⟨hlen, hchecked, _, _⟩ := Kind.decode_eq_ok_iff.mp h
    rw [hlength] at hlen
    -- no two kinds have frames of one length
    have hlt : other.wireLength < message.wireLength :=
      lt_of_le_of_ne hlen fun heq => hne (Kind.eq_of_wireLength_eq heq)
    rw [Kind.Checked, hdrop, htake hlt] at hchecked
    exact ⟨hlt, hchecked⟩
  · rintro ⟨hlt, hchecked⟩
    refine ⟨_, Kind.decode_eq_ok_iff.mpr ⟨?_, ?_, rfl, rfl⟩⟩
    · rw [hlength]
      exact hlt.le
    · rw [Kind.Checked, hdrop, htake hlt]
      exact hchecked

lemma exists_decode_flipBit_id (message : Message) {position : Nat} (h : position < 8) :
    (∃ received, decode (flipBit position message.encode) = .ok received) ↔
      ∃ other : Kind, other.id = message.id ^^^ 1 <<< UInt8.ofNat position ∧
        message.Mimics other := by
  have hframe : flipBit position message.encode =
      (message.id ^^^ 1 <<< UInt8.ofNat position) :: message.encode.tail := by
    rw [flipBit, Nat.div_eq_of_lt h, Nat.mod_eq_of_lt h, encode, body, List.cons_append,
      List.modify_zero_cons, List.tail_cons]
  have hne {other : Kind} (hid : other.id = message.id ^^^ 1 <<< UInt8.ofNat position) :
      other ≠ message.kind := by
    rintro rfl
    have hchange := isBitChange_xor message.id h
    rw [← hid, Message.id, sub_self] at hchange
    have hone : (255 : Int) ∣ 1 := hchange.dvd_of_dvd_mul (by simp)
    omega
  rw [hframe, decode]
  constructor
  · rintro ⟨received, hreceived⟩
    obtain ⟨other, hid, hdecode⟩ := decodeAs_eq_ok_iff.mp hreceived
    rw [← hid] at hdecode
    exact ⟨other, hid, (exists_decode_encode_tail (hne hid)).mp ⟨received, hdecode⟩⟩
  · rintro ⟨other, hid, hmimics⟩
    obtain ⟨received, hdecode⟩ := (exists_decode_encode_tail (hne hid)).mpr hmimics
    rw [hid] at hdecode
    exact ⟨received, decodeAs_eq_ok_iff.mpr ⟨other, hid, hdecode⟩⟩

/-- A frame with one bit inverted is received, as whatever kind its first byte then names, exactly
if the bit is one of the id and the message mimics a shorter kind with the new id. -/
theorem exists_decode_flipBit_iff (message : Message) {position : Nat}
    (h : position < 8 * message.encode.length) :
    (∃ received, decode (flipBit position message.encode) = .ok received) ↔
      position < 8 ∧ ∃ other : Kind, other.id = message.id ^^^ 1 <<< UInt8.ofNat position ∧
        message.Mimics other := by
  obtain hid | hrest := Nat.lt_or_ge position 8
  · rw [exists_decode_flipBit_id message hid]
    exact (and_iff_right hid).symm
  · constructor
    · rintro ⟨received, hreceived⟩
      obtain ⟨fault, hfault⟩ := decode_flipBit_of_le hrest h
      rw [hfault] at hreceived
      cases hreceived
    · rintro ⟨hid, _⟩
      omega

theorem exists_decode_flipBit_speed_report :
    let message := (fresh .upPlop).run [.put "entier" (.int 783)]
    0 < 8 * message.encode.length ∧ message.Mimics .upSpeedReport ∧
      ∃ received, decode (flipBit 0 message.encode) = .ok received := by
  have hmimics : ((fresh .upPlop).run [.put "entier" (.int 783)]).Mimics .upSpeedReport := by decide
  refine ⟨by decide, hmimics, ?_⟩
  exact (exists_decode_flipBit_iff _ (by decide)).mpr ⟨by decide, .upSpeedReport, rfl, hmimics⟩

/-- One damaged bit in the id of a reachable message, and its frame is received as a speed report.
-/
theorem decode_flipBit_id_accepted :
    let message := (fresh .upPlop).run [.put "entier" (.int 783)]
    message.Reachable ∧
      message.encode = [2, 0, 0, 0, 0, 15, 3, 0, 0, 0, 0, 0, 0, 0, 0, 0, 0, 0, 0, 32, 20] ∧
      decode (flipBit 0 message.encode) = .ok (fresh .upSpeedReport) :=
  ⟨⟨_, _, rfl⟩, by decide, rfl⟩

end Message

end Fieldbus
