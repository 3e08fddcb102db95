import LuaScope.Text.Utf8

/-!
This module contains the proof that decoding gives back every text that was encoded as UTF-8. The
decoder is run over the bytes of one character at a time, between which nothing is pending.
-/

namespace LuaScope

namespace Utf8

def encode (s : String) : List UInt8 :=
  s.toByteArray.data.toList

theorem encode_eq_flatMap (s : String) : encode s = s.toList.flatMap String.utf8EncodeChar := by
  rw [encode, ← String.utf8Encode_toList, List.utf8Encode, List.toList_data_toByteArray]

@[simp]
theorem length_encode (s : String) : (encode s).length = s.utf8ByteSize := rfl

theorem State.next_none (t : String) (b : UInt8) : State.next ⟨t, none⟩ b = State.lead t b := rfl

theorem toNat_ofNat_of_lt {n : Nat} (h : n < 256) : (UInt8.ofNat n).toNat = n := by
  rw [UInt8.toNat_ofNat', Nat.mod_eq_of_lt h]

theorem Lead.ofByte_of_lt {n : Nat} (h : n < 0x80) :
    Lead.ofByte (UInt8.ofNat n) = .whole (Char.ofNat n) := by
  have hn := toNat_ofNat_of_lt (n := n) (by omega)
  have hlt : UInt8.ofNat n < 0x80 := by
    rw [UInt8.lt_iff_toNat_lt, hn]
    exact h
  simp [Lead.ofByte, hlt, hn]

/--
The least continuation of a first byte, which keeps shorter characters from being written longer.
-/
def lowOf (n : Nat) : UInt8 :=
  if n = 0xE0 then 0xA0 else if n = 0xF0 then 0x90 else 0x80

/--
The greatest continuation of a first byte, which keeps out surrogates and what lies beyond the last
character.
-/
def highOf (n : Nat) : UInt8 :=
  if n = 0xED then 0x9F else if n = 0xF4 then 0x8F else 0xBF

theorem toNat_lowOf (n : Nat) :
    (lowOf n).toNat = if n = 0xE0 then 0xA0 else if n = 0xF0 then 0x90 else 0x80 := by
  unfold lowOf
  split
  . rfl
  . split <;> rfl

theorem toNat_highOf (n : Nat) :
    (highOf n).toNat = if n = 0xED then 0x9F else if n = 0xF4 then 0x8F else 0xBF := by
  unfold highOf
  split
  . rfl
  . split <;> rfl

theorem Lead.ofByte_begins (n left base : Nat)
    (h : (left = 1 ∧ base = 0xC0 ∧ 0xC2 ≤ n ∧ n < 0xE0) ∨
      (left = 2 ∧ base = 0xE0 ∧ 0xE0 ≤ n ∧ n < 0xF0) ∨
      (left = 3 ∧ base = 0xF0 ∧ 0xF0 ≤ n ∧ n ≤ 0xF4)) :
    Lead.ofByte (UInt8.ofNat n) = .begins ⟨left, lowOf n, highOf n, n - base⟩ := by
  have hn := toNat_ofNat_of_lt (n := n) (by omega)
  unfold Lead.ofByte lowOf highOf
  simp only [UInt8.lt_iff_toNat_lt, ← UInt8.toNat_inj, hn, UInt8.reduceToNat]
  grind

theorem second_of_three {n : Nat} (h1 : 0x7FF < n) (h2 : n ≤ 0xFFFF)
    (h3 : n < 0xD800 ∨ 0xDFFF < n) :
    (lowOf (n / 4096 % 16 + 224)).toNat ≤ n / 64 % 64 + 128 ∧
      n / 64 % 64 + 128 ≤ (highOf (n / 4096 % 16 + 224)).toNat := by
  rw [toNat_lowOf, toNat_highOf]
  constructor <;>
    split
  . omega
  . split <;> omega
  . omega
  . split <;> omega

theorem second_of_four {n : Nat} (h1 : 0xFFFF < n) (h2 : n < 0x110000) :
    (lowOf (n / 262144 % 8 + 240)).toNat ≤ n / 4096 % 64 + 128 ∧
      n / 4096 % 64 + 128 ≤ (highOf (n / 262144 % 8 + 240)).toNat := by
  rw [toNat_lowOf, toNat_highOf]
  constructor <;>
    split
  . omega
  . split <;> omega
  . omega
  . split <;> omega

theorem State.next_tail {t : String} {p : Partial} {x : Nat} (hx : x < 64)
    (hlow : p.low.toNat ≤ x + 128) (hhigh : x + 128 ≤ p.high.toNat) :
    State.next ⟨t, some p⟩ (UInt8.ofNat (x + 128)) =
      if p.left = 1 then ⟨t.push (Char.ofNat (p.code * 64 + x)), none⟩
      else ⟨t, some ⟨p.left - 1, 0x80, 0xBF, p.code * 64 + x⟩⟩ := by
  have hn := toNat_ofNat_of_lt (n := x + 128) (by omega)
  have hbound : p.low ≤ UInt8.ofNat (x + 128) ∧ UInt8.ofNat (x + 128) ≤ p.high := by
    rw [UInt8.le_iff_toNat_le, UInt8.le_iff_toNat_le, hn]
    exact ⟨hlow, hhigh⟩
  simp only [State.next, hbound, hn, and_self, if_true, Nat.add_sub_cancel]

theorem State.next_last (t : String) (low high : UInt8) (code : Nat) {x : Nat} (hx : x < 64)
    (hlow : low.toNat ≤ x + 128) (hhigh : x + 128 ≤ high.toNat) :
    State.next ⟨t, some ⟨1, low, high, code⟩⟩ (UInt8.ofNat (x + 128)) =
      ⟨t.push (Char.ofNat (code * 64 + x)), none⟩ := by
  rw [State.next_tail hx hlow hhigh, if_pos rfl]

theorem State.next_more (t : String) (left : Nat) (low high : UInt8) (code : Nat) {x : Nat}
    (hx : x < 64) (hlow : low.toNat ≤ x + 128) (hhigh : x + 128 ≤ high.toNat) :
    State.next ⟨t, some ⟨left + 2, low, high, code⟩⟩ (UInt8.ofNat (x + 128)) =
      ⟨t, some ⟨left + 1, 0x80, 0xBF, code * 64 + x⟩⟩ := by
  rw [State.next_tail hx hlow hhigh, if_neg]
  . rfl
  . show ¬(left + 2 = 1)
    omega

theorem foldl_next_two (t : String) {n : Nat} (h1 : 0x7F < n) (h2 : n ≤ 0x7FF) :
    [UInt8.ofNat (n / 64 % 32 + 192), UInt8.ofNat (n % 64 + 128)].foldl State.next ⟨t, none⟩ =
      ⟨t.push (Char.ofNat n), none⟩ := by
  have hlead := Lead.ofByte_begins (n / 64 % 32 + 192) 1 0xC0 (by omega)
  have hlow := toNat_lowOf (n / 64 % 32 + 192)
  have hhigh := toNat_highOf (n / 64 % 32 + 192)
  have hn : (n / 64 % 32 + 192 - 192) * 64 + n % 64 = n := by omega
  simp only [List.foldl, State.next_none, State.lead, hlead]
  rw [State.next_last, hn] <;> grind

theorem foldl_next_three (t : String) {n : Nat} (h1 : 0x7FF < n) (h2 : n ≤ 0xFFFF)
    (h3 : n < 0xD800 ∨ 0xDFFF < n) :
    [UInt8.ofNat (n / 4096 % 16 + 224), UInt8.ofNat (n / 64 % 64 + 128),
      UInt8.ofNat (n % 64 + 128)].foldl State.next ⟨t, none⟩ = ⟨t.push (Char.ofNat n), none⟩ := by
  have hlead := Lead.ofByte_begins (n / 4096 % 16 + 224) 2 0xE0 (by omega)
  have hsecond := second_of_three h1 h2 h3
  have hn : ((n / 4096 % 16 + 224 - 224) * 64 + n / 64 % 64) * 64 + n % 64 = n := by omega
  simp only [List.foldl, State.next_none, State.lead, hlead]
  rw [State.next_more, State.next_last, hn] <;> grind

theorem foldl_next_four (t : String) {n : Nat} (h1 : 0xFFFF < n) (h2 : n < 0x110000) :
    [UInt8.ofNat (n / 262144 % 8 + 240), UInt8.ofNat (n / 4096 % 64 + 128),
      UInt8.ofNat (n / 64 % 64 + 128), UInt8.ofNat (n % 64 + 128)].foldl State.next ⟨t, none⟩ =
        ⟨t.push (Char.ofNat n), none⟩ := by
  have hlead := Lead.ofByte_begins (n / 262144 % 8 + 240) 3 0xF0 (by omega)
  have hsecond := second_of_four h1 h2
  have hn : (((n / 262144 % 8 + 240 - 240) * 64 + n / 4096 % 64) * 64 + n / 64 % 64) * 64 +
      n % 64 = n := by omega
  simp only [List.foldl, State.next_none, State.lead, hlead]
  rw [State.next_more, State.next_more, State.next_last, hn] <;> grind

theorem foldl_next_encodeChar (t : String) (c : Char) :
    (String.utf8EncodeChar c).foldl State.next ⟨t, none⟩ = ⟨t.push c, none⟩ := by
  have hvalid : c.val.toNat < 0xD800 ∨ (0xDFFF < c.val.toNat ∧ c.val.toNat < 0x110000) := c.valid
  have hc : Char.ofNat c.val.toNat = c := Char.ofNat_toNat c
  unfold String.utf8EncodeChar
  generalize c.val.toNat = n at *
  subst hc
  dsimp only
  split
  . next h1 =>
    have hlead := Lead.ofByte_of_lt (n := n) (by omega)
    simp only [List.foldl, State.next_none, State.lead, hlead]
  . split
    . apply foldl_next_two <;> omega
    . split
      . apply foldl_next_three <;> omega
      . apply foldl_next_four <;> omega

theorem foldl_next_encode (t : String) (cs : List Char) :
    (cs.flatMap String.utf8EncodeChar).foldl State.next ⟨t, none⟩ =
      ⟨t ++ String.ofList cs, none⟩ := by
  induction cs generalizing t with
  | nil => simp
  | cons c cs ih =>
    rw [List.flatMap_cons, List.foldl_append, foldl_next_encodeChar, ih]
    simp [← String.toList_inj]

theorem decodeLossy_encode (s : String) : decodeLossy (encode s) = s := by
  rw [decodeLossy, encode_eq_flatMap, foldl_next_encode]
  simp [State.finish]

end Utf8

end LuaScope
