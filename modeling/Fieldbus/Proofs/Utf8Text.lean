import Fieldbus.Text.Utf8
import Mathlib.Tactic.Lemma
import Mathlib.Tactic.SplitIfs

/-!
# Encoded text is decoded to itself

The decoder takes up the bytes of a character one by one and yields the character at the last of
them; if they end before, there is one ill-formed run. Text that was encoded is therefore decoded to
itself, and text that was encoded and then cut loses what lies behind the cut, but for a replacement
character where the cut goes through a character.
-/

namespace Fieldbus.Utf8

/-! ## Single bytes -/

section Bytes

variable {n : Nat}

lemma toNat_byte (h : n < 256) : (UInt8.ofNat n).toNat = n := UInt8.toNat_ofNat_of_lt' h

lemma step_start_one (h : n < 0x80) :
    step .start (UInt8.ofNat n) = ([some (Char.ofNat n)], .start) := by
  have hn := toNat_byte (n := n) (by omega)
  have hlt : UInt8.ofNat n < 0x80 := by
    rw [UInt8.lt_iff_toNat_lt, hn]
    exact h
  rw [step, lead, if_pos hlt, hn]

lemma step_start_two (hlo : 2 ≤ n) (hhi : n < 0x20) :
    step .start (UInt8.ofNat (n + 0xC0)) = ([], .inside 0 0x80 0xBF n) := by
  have hall : ∀ n : Fin 0x20, 2 ≤ n.val →
      step .start (UInt8.ofNat (n.val + 0xC0)) = ([], .inside 0 0x80 0xBF n.val) := by decide
  exact hall ⟨n, hhi⟩ hlo

lemma step_start_three (h : n < 0x10) :
    step .start (UInt8.ofNat (n + 0xE0)) = ([], .inside 1 (if n = 0 then 0xA0 else 0x80)
      (if n = 0xD then 0x9F else 0xBF) n) := by
  have hall : ∀ n : Fin 0x10, step .start (UInt8.ofNat (n.val + 0xE0)) =
      ([], .inside 1 (if n.val = 0 then 0xA0 else 0x80) (if n.val = 0xD then 0x9F else 0xBF)
        n.val) := by decide
  exact hall ⟨n, h⟩

lemma step_start_four (h : n ≤ 4) :
    step .start (UInt8.ofNat (n + 0xF0)) = ([], .inside 2 (if n = 0 then 0x90 else 0x80)
      (if n = 4 then 0x8F else 0xBF) n) := by
  have hall : ∀ n : Fin 5, step .start (UInt8.ofNat (n.val + 0xF0)) =
      ([], .inside 2 (if n.val = 0 then 0x90 else 0x80) (if n.val = 4 then 0x8F else 0xBF)
        n.val) := by decide
  exact hall ⟨n, by omega⟩

variable {lo hi : UInt8}

lemma continuation_between (h : n < 0x40) (hlo : lo.toNat ≤ n + 0x80)
    (hhi : n + 0x80 ≤ hi.toNat) :
    lo ≤ UInt8.ofNat (n + 0x80) ∧ UInt8.ofNat (n + 0x80) ≤ hi := by
  rw [UInt8.le_iff_toNat_le, UInt8.le_iff_toNat_le, toNat_byte (by omega)]
  exact ⟨hlo, hhi⟩

lemma step_last (h : n < 0x40) (hlo : lo.toNat ≤ n + 0x80) (hhi : n + 0x80 ≤ hi.toNat)
    (bits : Nat) :
    step (.inside 0 lo hi bits) (UInt8.ofNat (n + 0x80)) =
      ([some (Char.ofNat (bits * 0x40 + n))], .start) := by
  have hmod : (n + 0x80) % 0x40 = n := by omega
  rw [step, if_pos (continuation_between h hlo hhi), toNat_byte (by omega), hmod]

lemma step_next (h : n < 0x40) (hlo : lo.toNat ≤ n + 0x80) (hhi : n + 0x80 ≤ hi.toNat)
    (left bits : Nat) :
    step (.inside (left + 1) lo hi bits) (UInt8.ofNat (n + 0x80)) =
      ([], .inside left 0x80 0xBF (bits * 0x40 + n)) := by
  have hmod : (n + 0x80) % 0x40 = n := by omega
  rw [step, if_pos (continuation_between h hlo hhi), toNat_byte (by omega), hmod]

end Bytes

/-! ## Single characters -/

lemma itemsFrom_cons (state : State) (byte : UInt8) (bytes : List UInt8) :
    itemsFrom state (byte :: bytes) =
      (step state byte).1 ++ itemsFrom (step state byte).2 bytes := by
  cases state <;> rfl

/-- From a state, the bytes are taken up as one character, and as one ill-formed run if they end too
early. -/
def Spells (c : Char) (state : State) (bytes : List UInt8) : Prop :=
  (∀ rest, itemsFrom state (bytes ++ rest) = some c :: items rest) ∧
    ∀ n, 0 < n → n < bytes.length → itemsFrom state (bytes.take n) = [none]

section Spells

variable {c : Char} {state : State} {byte : UInt8}

lemma spells_last (h : step state byte = ([some c], .start)) : Spells c state [byte] := by
  constructor
  · intro rest
    rw [List.singleton_append, itemsFrom_cons, h]
    rfl
  · intro n hpos hlt
    rw [List.length_singleton] at hlt
    omega

lemma spells_next {left bits : Nat} {lo hi : UInt8} {bytes : List UInt8}
    (h : step state byte = ([], .inside left lo hi bits))
    (hbytes : Spells c (.inside left lo hi bits) bytes) : Spells c state (byte :: bytes) := by
  obtain ⟨hwhole, hshort⟩ := hbytes
  constructor
  · intro rest
    rw [List.cons_append, itemsFrom_cons, h]
    exact hwhole rest
  · intro n hpos hlt
    obtain ⟨n, rfl⟩ := Nat.exists_eq_add_one_of_ne_zero (Nat.ne_of_gt hpos)
    rw [List.length_cons] at hlt
    rw [List.take_succ_cons, itemsFrom_cons, h, List.nil_append]
    by_cases hn : n = 0
    · rw [hn]
      rfl
    · exact hshort n (by omega) (by omega)

variable {a b d e : Nat}

lemma spells_tail (hb : b < 0x40) (bits : Nat) :
    Spells (Char.ofNat (bits * 0x40 + b)) (.inside 0 0x80 0xBF bits) [UInt8.ofNat (b + 0x80)] := by
  apply spells_last
  apply step_last hb
  · exact Nat.le_add_left _ _
  · change b + 0x80 ≤ 0xBF
    omega

lemma spells_two (hlo : 2 ≤ a) (hhi : a < 0x20) (hb : b < 0x40) :
    Spells (Char.ofNat (a * 0x40 + b)) .start [UInt8.ofNat (a + 0xC0), UInt8.ofNat (b + 0x80)] :=
  spells_next (step_start_two hlo hhi) (spells_tail hb a)

-- The two bounds keep overlong forms and surrogates out.
lemma spells_three (ha : a < 0x10) (hb : b < 0x40) (hd : d < 0x40) (hlo : a = 0 → 0x20 ≤ b)
    (hhi : a = 0xD → b < 0x20) :
    Spells (Char.ofNat ((a * 0x40 + b) * 0x40 + d)) .start
      [UInt8.ofNat (a + 0xE0), UInt8.ofNat (b + 0x80), UInt8.ofNat (d + 0x80)] := by
  have hlow : (if a = 0 then 0xA0 else 0x80 : UInt8).toNat ≤ b + 0x80 := by
    split_ifs with h
    · have hb := hlo h
      change 0xA0 ≤ b + 0x80
      omega
    · exact Nat.le_add_left _ _
  have hhigh : b + 0x80 ≤ (if a = 0xD then 0x9F else 0xBF : UInt8).toNat := by
    split_ifs with h
    · have hb := hhi h
      change b + 0x80 ≤ 0x9F
      omega
    · change b + 0x80 ≤ 0xBF
      omega
  apply spells_next (step_start_three ha)
  apply spells_next (step_next hb hlow hhigh 0 a)
  exact spells_tail hd _

-- Here they keep out overlong forms and what lies beyond the last character.
lemma spells_four (ha : a ≤ 4) (hb : b < 0x40) (hd : d < 0x40) (he : e < 0x40)
    (hlo : a = 0 → 0x10 ≤ b) (hhi : a = 4 → b < 0x10) :
    Spells (Char.ofNat (((a * 0x40 + b) * 0x40 + d) * 0x40 + e)) .start
      [UInt8.ofNat (a + 0xF0), UInt8.ofNat (b + 0x80), UInt8.ofNat (d + 0x80),
        UInt8.ofNat (e + 0x80)] := by
  have hlow : (if a = 0 then 0x90 else 0x80 : UInt8).toNat ≤ b + 0x80 := by
    split_ifs with h
    · have hb := hlo h
      change 0x90 ≤ b + 0x80
      omega
    · exact Nat.le_add_left _ _
  have hhigh : b + 0x80 ≤ (if a = 4 then 0x8F else 0xBF : UInt8).toNat := by
    split_ifs with h
    · have hb := hhi h
      change b + 0x80 ≤ 0x8F
      omega
    · change b + 0x80 ≤ 0xBF
      omega
  have hnext : d + 0x80 ≤ (0xBF : UInt8).toNat := by
    change d + 0x80 ≤ 0xBF
    omega
  apply spells_next (step_start_four ha)
  apply spells_next (step_next hb hlow hhigh 1 a)
  apply spells_next (step_next hd (Nat.le_add_left _ _) hnext 0 _)
  exact spells_tail he _

end Spells

lemma spells_utf8EncodeChar (c : Char) : Spells c .start (String.utf8EncodeChar c) := by
  have hvalid := c.valid
  have hc : Char.ofNat c.val.toNat = c := Char.ofNat_toNat c
  simp only [UInt32.isValidChar, Nat.isValidChar] at hvalid
  unfold String.utf8EncodeChar
  generalize c.val.toNat = v at hvalid hc
  subst hc
  dsimp only
  split_ifs with h₁ h₂ h₃
  · exact spells_last (step_start_one (by omega))
  · have h := spells_two (a := v / 64 % 0x20) (b := v % 0x40) (by omega) (by omega) (by omega)
    rwa [show v / 64 % 0x20 * 0x40 + v % 0x40 = v by omega] at h
  · have h := spells_three (a := v / 4096 % 0x10) (b := v / 64 % 0x40) (d := v % 0x40) (by omega)
      (by omega) (by omega) (by omega) (by omega)
    rwa [show (v / 4096 % 0x10 * 0x40 + v / 64 % 0x40) * 0x40 + v % 0x40 = v by omega] at h
  · have h := spells_four (a := v / 262144 % 0x08) (b := v / 4096 % 0x40) (d := v / 64 % 0x40)
      (e := v % 0x40) (by omega) (by omega) (by omega) (by omega) (by omega) (by omega)
    rwa [show ((v / 262144 % 0x08 * 0x40 + v / 4096 % 0x40) * 0x40 + v / 64 % 0x40) * 0x40 +
      v % 0x40 = v by omega] at h

/-! ## Texts -/

lemma encode_cons (c : Char) (text : List Char) :
    encode (c :: text) = String.utf8EncodeChar c ++ encode text := List.flatMap_cons

lemma length_encode_cons (c : Char) (text : List Char) :
    (encode (c :: text)).length = c.utf8Size + (encode text).length := by
  rw [encode_cons, List.length_append, String.length_utf8EncodeChar]

lemma items_encode (text : List Char) : items (encode text) = text.map some := by
  induction text with
  | nil => rfl
  | cons c text ih =>
    rw [encode_cons, items, (spells_utf8EncodeChar c).1, ih, List.map_cons]

lemma decode?_encode (text : List Char) : decode? (encode text) = some text := by
  rw [decode?, items_encode]
  induction text with
  | nil => rfl
  | cons c text ih =>
    rw [List.map_cons, List.mapM_cons, ih]
    rfl

lemma decodeLossy_encode (text : List Char) : decodeLossy (encode text) = text := by
  rw [decodeLossy, items_encode, List.map_map]
  exact List.map_id text

/-! ## Texts that are cut -/

lemma decodeLossy_take_encode_cons {c : Char} {n : Nat} (h : c.utf8Size ≤ n) (text : List Char) :
    decodeLossy ((encode (c :: text)).take n) =
      c :: decodeLossy ((encode text).take (n - c.utf8Size)) := by
  rw [encode_cons, List.take_append, List.take_of_length_le (by rwa [String.length_utf8EncodeChar]),
    String.length_utf8EncodeChar, decodeLossy, items, (spells_utf8EncodeChar c).1]
  rfl

lemma decodeLossy_take_of_lt {c : Char} {n : Nat} (hpos : 0 < n) (h : n < c.utf8Size)
    (text : List Char) : decodeLossy ((encode (c :: text)).take n) = ['\ufffd'] := by
  have hlen := String.length_utf8EncodeChar c
  rw [encode_cons, List.take_append_of_le_length (by omega), decodeLossy, items,
    (spells_utf8EncodeChar c).2 n hpos (by omega)]
  rfl

lemma length_decodeLossy_take_le (text : List Char) (n : Nat) :
    (decodeLossy ((encode text).take n)).length ≤ text.length := by
  induction text generalizing n with
  | nil =>
    rw [show (encode []).take n = [] from List.take_nil]
    exact Nat.le_refl _
  | cons c text ih =>
    by_cases hn : n = 0
    · rw [hn, List.take_zero]
      exact Nat.zero_le _
    · by_cases hc : c.utf8Size ≤ n
      · rw [decodeLossy_take_encode_cons hc, List.length_cons, List.length_cons]
        exact Nat.succ_le_succ (ih _)
      · rw [decodeLossy_take_of_lt (by omega) (by omega), List.length_cons, List.length_cons]
        exact Nat.succ_le_succ (Nat.zero_le _)

/-- The last character is a replacement character, and a cut goes through it. -/
def CutsReplacement (text : List Char) (n : Nat) : Prop :=
  ∃ front, text = front ++ ['\ufffd'] ∧ (encode front).length < n ∧ n < (encode front).length + 3

lemma cutsReplacement_cons {c : Char} {n : Nat} (h : c.utf8Size ≤ n) (text : List Char) :
    CutsReplacement (c :: text) n ↔ CutsReplacement text (n - c.utf8Size) := by
  constructor
  · rintro ⟨front, htext, hlo, hhi⟩
    cases front with
    | nil =>
      -- All of a lone replacement character stands before the cut.
      obtain rfl := (List.cons.inj htext).1
      have hsize : ('\ufffd').utf8Size = 3 := by decide
      have hnil : (encode []).length = 0 := rfl
      omega
    | cons d front =>
      obtain ⟨rfl, rfl⟩ := List.cons.inj htext
      rw [length_encode_cons] at hlo hhi
      exact ⟨front, rfl, by omega, by omega⟩
  · rintro ⟨front, rfl, hlo, hhi⟩
    refine ⟨c :: front, rfl, ?_, ?_⟩ <;> rw [length_encode_cons] <;> omega

/-- A cut text is read as the whole one exactly if nothing was cut off, or if what is left of its
last character passes for it. -/
lemma decodeLossy_take_eq_iff (text : List Char) (n : Nat) :
    decodeLossy ((encode text).take n) = text ↔
      (encode text).length ≤ n ∨ CutsReplacement text n := by
  induction text generalizing n with
  | nil =>
    rw [show (encode []).take n = [] from List.take_nil]
    exact iff_of_true rfl (.inl (Nat.zero_le n))
  | cons c text ih =>
    have hpos := c.utf8Size_pos
    have hlen := length_encode_cons c text
    by_cases hc : c.utf8Size ≤ n
    · rw [decodeLossy_take_encode_cons hc, List.cons_inj_right, ih, cutsReplacement_cons hc, hlen]
      exact or_congr_left (by omega)
    · by_cases hn : n = 0
      · rw [hn, List.take_zero]
        constructor
        · intro h
          nomatch h
        · rintro (h | ⟨front, _, h, _⟩) <;> omega
      · rw [decodeLossy_take_of_lt (by omega) (by omega)]
        constructor
        · intro h
          obtain ⟨rfl, rfl⟩ := List.cons.inj h
          have hsize : ('\ufffd').utf8Size = 3 := by decide
          refine .inr ⟨[], rfl, ?_, ?_⟩
          · exact Nat.pos_of_ne_zero hn
          · change n < 0 + 3
            omega
        · rintro (h | ⟨front, htext, h, _⟩)
          · omega
          · cases front with
            | nil => exact htext.symm
            | cons d front =>
              obtain ⟨rfl, rfl⟩ := List.cons.inj htext
              rw [length_encode_cons] at h
              omega

end Fieldbus.Utf8
