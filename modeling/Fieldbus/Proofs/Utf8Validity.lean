import Fieldbus.Proofs.Utf8Text

/-!
# Bytes without ill-formed runs are encoded text

A decoder that has taken up some bytes of a character admits only bytes that continue the encoding
of one. What it yields at the last of them is therefore the character with that encoding, and bytes
that are decoded without an ill-formed run are the encoding of the text they are decoded to.
-/

namespace Fieldbus.Utf8

/-! ## Encodings by their length -/

section Forms

variable {a b d e : Nat}

lemma toNat_ofNat {v : Nat} (h : v < 0xD800 ∨ 0xDFFF < v ∧ v < 0x110000) :
    (Char.ofNat v).val.toNat = v := by
  have hvalid : v.isValidChar := h
  rw [Char.ofNat, dif_pos hvalid]
  exact UInt32.toNat_ofNatLT

lemma utf8EncodeChar_one (h : a < 0x80) :
    String.utf8EncodeChar (Char.ofNat a) = [UInt8.ofNat a] := by
  have hv := toNat_ofNat (v := a) (by omega)
  simp only [String.utf8EncodeChar, hv]
  rw [if_pos (by omega)]

lemma utf8EncodeChar_two (hlo : 2 ≤ a) (hhi : a < 0x20) (hb : b < 0x40) :
    String.utf8EncodeChar (Char.ofNat (a * 0x40 + b)) =
      [UInt8.ofNat (a + 0xC0), UInt8.ofNat (b + 0x80)] := by
  have hv := toNat_ofNat (v := a * 0x40 + b) (by omega)
  simp only [String.utf8EncodeChar, hv]
  rw [if_neg (by omega), if_pos (by omega), show (a * 0x40 + b) / 64 % 0x20 = a by omega,
    show (a * 0x40 + b) % 0x40 = b by omega]

lemma utf8EncodeChar_three (ha : a < 0x10) (hb : b < 0x40) (hd : d < 0x40) (hlo : a = 0 → 0x20 ≤ b)
    (hhi : a = 0xD → b < 0x20) :
    String.utf8EncodeChar (Char.ofNat ((a * 0x40 + b) * 0x40 + d)) =
      [UInt8.ofNat (a + 0xE0), UInt8.ofNat (b + 0x80), UInt8.ofNat (d + 0x80)] := by
  have hv := toNat_ofNat (v := (a * 0x40 + b) * 0x40 + d) (by omega)
  simp only [String.utf8EncodeChar, hv]
  rw [if_neg (by omega), if_neg (by omega), if_pos (by omega),
    show ((a * 0x40 + b) * 0x40 + d) / 4096 % 0x10 = a by omega,
    show ((a * 0x40 + b) * 0x40 + d) / 64 % 0x40 = b by omega,
    show ((a * 0x40 + b) * 0x40 + d) % 0x40 = d by omega]

lemma utf8EncodeChar_four (ha : a ≤ 4) (hb : b < 0x40) (hd : d < 0x40) (he : e < 0x40)
    (hlo : a = 0 → 0x10 ≤ b) (hhi : a = 4 → b < 0x10) :
    String.utf8EncodeChar (Char.ofNat (((a * 0x40 + b) * 0x40 + d) * 0x40 + e)) =
      [UInt8.ofNat (a + 0xF0), UInt8.ofNat (b + 0x80), UInt8.ofNat (d + 0x80),
        UInt8.ofNat (e + 0x80)] := by
  have hv := toNat_ofNat (v := ((a * 0x40 + b) * 0x40 + d) * 0x40 + e) (by omega)
  simp only [String.utf8EncodeChar, hv]
  rw [if_neg (by omega), if_neg (by omega), if_neg (by omega),
    show (((a * 0x40 + b) * 0x40 + d) * 0x40 + e) / 262144 % 0x08 = a by omega,
    show (((a * 0x40 + b) * 0x40 + d) * 0x40 + e) / 4096 % 0x40 = b by omega,
    show (((a * 0x40 + b) * 0x40 + d) * 0x40 + e) / 64 % 0x40 = d by omega,
    show (((a * 0x40 + b) * 0x40 + d) * 0x40 + e) % 0x40 = e by omega]

end Forms

/-! ## Characters that were begun -/

/-- Whatever admitted bytes follow, they complete the encoding of the character that is yielded. -/
def Completes : Nat → UInt8 → UInt8 → Nat → List UInt8 → Prop
  | 0, lo, hi, bits, begun => ∀ byte, lo ≤ byte → byte ≤ hi →
    String.utf8EncodeChar (Char.ofNat (bits * 0x40 + byte.toNat % 0x40)) = begun ++ [byte]
  | left + 1, lo, hi, bits, begun => ∀ byte, lo ≤ byte → byte ≤ hi →
    Completes left 0x80 0xBF (bits * 0x40 + byte.toNat % 0x40) (begun ++ [byte])

/-- The bytes of a character that the decoder has taken up in a state. -/
def Begun : State → List UInt8 → Prop
  | .start, begun => begun = []
  | .inside left lo hi bits, begun => Completes left lo hi bits begun

lemma ofNat_eq_of_toNat {byte : UInt8} {n : Nat} (h : byte.toNat = n) : UInt8.ofNat n = byte := by
  rw [← h, UInt8.ofNat_toNat]

lemma continuation_eq {byte : UInt8} (hlo : 0x80 ≤ byte.toNat) (hhi : byte.toNat ≤ 0xBF) :
    UInt8.ofNat (byte.toNat % 0x40 + 0x80) = byte := ofNat_eq_of_toNat (by omega)

section Completes

variable {a : Nat} {byte lo hi : UInt8}

lemma completes_two (h : byte.toNat = a + 0xC0) (hlo : 2 ≤ a) (hhi : a < 0x20) :
    Completes 0 0x80 0xBF a [byte] := by
  intro b hb hb'
  rw [UInt8.le_iff_toNat_le] at hb hb'
  rw [utf8EncodeChar_two hlo hhi (by omega), ofNat_eq_of_toNat h, continuation_eq hb hb']
  rfl

lemma completes_three (h : byte.toNat = a + 0xE0) (ha : a < 0x10) (hlo : 0x80 ≤ lo.toNat)
    (hhi : hi.toNat ≤ 0xBF) (hlong : a = 0 → 0xA0 ≤ lo.toNat)
    (hsurrogate : a = 0xD → hi.toNat ≤ 0x9F) : Completes 1 lo hi a [byte] := by
  intro b hb hb' d hd hd'
  rw [UInt8.le_iff_toNat_le] at hb hb' hd hd'
  have hb : 0x80 ≤ b.toNat ∧ b.toNat ≤ 0xBF := by omega
  rw [utf8EncodeChar_three ha (by omega) (by omega) (by omega) (by omega), ofNat_eq_of_toNat h,
    continuation_eq hb.1 hb.2, continuation_eq hd hd']
  rfl

lemma completes_four (h : byte.toNat = a + 0xF0) (ha : a ≤ 4) (hlo : 0x80 ≤ lo.toNat)
    (hhi : hi.toNat ≤ 0xBF) (hlong : a = 0 → 0x90 ≤ lo.toNat) (hlast : a = 4 → hi.toNat ≤ 0x8F) :
    Completes 2 lo hi a [byte] := by
  intro b hb hb' d hd hd' e he he'
  rw [UInt8.le_iff_toNat_le] at hb hb' hd hd' he he'
  have hb : 0x80 ≤ b.toNat ∧ b.toNat ≤ 0xBF := by omega
  rw [utf8EncodeChar_four ha (by omega) (by omega) (by omega) (by omega) (by omega),
    ofNat_eq_of_toNat h, continuation_eq hb.1 hb.2, continuation_eq hd hd', continuation_eq he he']
  rfl

end Completes

lemma lead_cases (byte : UInt8) :
    none ∈ (lead byte).1 ∨
      (∃ c, lead byte = ([some c], .start) ∧ String.utf8EncodeChar c = [byte]) ∨
      ∃ state, lead byte = ([], state) ∧ Begun state [byte] := by
  generalize hlead : lead byte = result
  simp only [lead, UInt8.lt_iff_toNat_lt, UInt8.le_iff_toNat_le, ← UInt8.toNat_inj,
    UInt8.reduceToNat] at hlead
  split_ifs at hlead with h₁ h₂ h₃ h₄ h₅ h₆ h₇ h₈ <;> subst hlead
  · exact .inr (.inl ⟨_, rfl, by rw [utf8EncodeChar_one h₁, UInt8.ofNat_toNat]⟩)
  · exact .inr (.inr ⟨_, rfl, completes_two (by omega) (by omega) (by omega)⟩)
  · exact .inr (.inr ⟨_, rfl, completes_three h₃ (by decide) (by decide) (by decide) (by decide)
      (by decide)⟩)
  · exact .inr (.inr ⟨_, rfl, completes_three h₄ (by decide) (by decide) (by decide) (by decide)
      (by decide)⟩)
  · exact .inr (.inr ⟨_, rfl, completes_three (by omega) (by omega) (by decide) (by decide)
      (by omega) (by omega)⟩)
  · exact .inr (.inr ⟨_, rfl, completes_four h₆ (by decide) (by decide) (by decide) (by decide)
      (by decide)⟩)
  · exact .inr (.inr ⟨_, rfl, completes_four (by omega) (by omega) (by decide) (by decide)
      (by omega) (by omega)⟩)
  · exact .inr (.inr ⟨_, rfl, completes_four h₈ (by decide) (by decide) (by decide) (by decide)
      (by decide)⟩)
  · exact .inl List.mem_cons_self

/-- Everything that one byte can do: it ends an ill-formed run, completes a character, or is taken
up as one more byte of a character. -/
lemma step_cases {state : State} {begun : List UInt8} (h : Begun state begun) (byte : UInt8) :
    none ∈ (step state byte).1 ∨
      (∃ c, step state byte = ([some c], .start) ∧ String.utf8EncodeChar c = begun ++ [byte]) ∨
      ∃ next, step state byte = ([], next) ∧ Begun next (begun ++ [byte]) := by
  cases state with
  | start =>
    obtain rfl : begun = [] := h
    exact lead_cases byte
  | inside left lo hi bits =>
    by_cases hbyte : lo ≤ byte ∧ byte ≤ hi
    · cases left with
      | zero => exact .inr (.inl ⟨_, by rw [step, if_pos hbyte], h byte hbyte.1 hbyte.2⟩)
      | succ left =>
        exact .inr (.inr ⟨.inside left 0x80 0xBF _, by rw [step, if_pos hbyte],
          h byte hbyte.1 hbyte.2⟩)
    · left
      rw [step, if_neg hbyte]
      exact List.mem_cons_self

lemma encode_of_itemsFrom {state : State} {begun bytes : List UInt8} {text : List Char}
    (hbegun : Begun state begun) (h : itemsFrom state bytes = text.map some) :
    encode text = begun ++ bytes := by
  induction bytes generalizing state begun text with
  | nil =>
    cases state with
    | start =>
      obtain rfl : begun = [] := hbegun
      obtain rfl : text = [] := List.map_eq_nil_iff.mp h.symm
      rfl
    | inside left lo hi bits =>
      have hnone : none ∈ text.map some := h ▸ List.mem_cons_self
      simp at hnone
  | cons byte bytes ih =>
    rw [itemsFrom_cons] at h
    obtain hstep | ⟨c, hstep, hc⟩ | ⟨next, hstep, hnext⟩ := step_cases hbegun byte
    · have hnone : none ∈ text.map some := h ▸ List.mem_append_left _ hstep
      simp at hnone
    · rw [hstep] at h
      cases text with
      | nil => simp at h
      | cons d text =>
        simp only [List.map_cons, List.singleton_append, List.cons.injEq, Option.some.injEq] at h
        obtain ⟨rfl, htext⟩ := h
        rw [encode_cons, hc, ih (show Begun .start [] from rfl) htext]
        simp
    · rw [hstep] at h
      rw [ih hnext h]
      simp

lemma eq_map_some_of_mapM {items : List (Option Char)} {text : List Char}
    (h : items.mapM id = some text) : items = text.map some := by
  induction items generalizing text with
  | nil =>
    obtain rfl : [] = text := Option.some.inj h
    rfl
  | cons item items ih =>
    rw [List.mapM_cons] at h
    cases item with
    | none => simp at h
    | some c =>
      cases htail : items.mapM id with
      | none => simp [htail] at h
      | some tail =>
        simp only [id_eq, htail, Option.pure_def, Option.bind_eq_bind, Option.bind_some,
          Option.some.injEq] at h
        rw [← h, ih htail, List.map_cons]

lemma decode?_eq_some_iff {bytes : List UInt8} {text : List Char} :
    decode? bytes = some text ↔ encode text = bytes := by
  constructor
  · intro h
    exact encode_of_itemsFrom (show Begun .start [] from rfl) (eq_map_some_of_mapM h)
  · rintro rfl
    exact decode?_encode text

end Fieldbus.Utf8
