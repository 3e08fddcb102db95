import Mathlib.Data.Nat.Prime.Basic
import LuaScope.Cursor

/-!
This module contains what rounding an address up comes to in numbers, and the positions that a
cursor reaches from an address that is aligned itself: as long as the top of the address space
is not passed, they are the offsets of the fields of a C structure.
-/

namespace LuaScope

theorem and_highMask {n k : Nat} (hn : n < 2 ^ 64) (hk : k ≤ 64) :
    n &&& (2 ^ 64 - 2 ^ k) = n / 2 ^ k * 2 ^ k := by
  have hle : 2 ^ k ≤ 2 ^ 64 := Nat.pow_le_pow_right (by omega) hk
  have hpos : 0 < 2 ^ k := Nat.two_pow_pos k
  apply Nat.eq_of_testBit_eq
  intro i
  have hmask := Nat.testBit_two_pow_sub_succ (x := 2 ^ k - 1) (n := 64) (by omega) i
  rw [Nat.sub_add_cancel hpos] at hmask
  rw [Nat.testBit_and, hmask, Nat.testBit_mul_two_pow, Nat.testBit_div_two_pow,
    Nat.testBit_two_pow_sub_one]
  by_cases hi : i < k
  . have hki : ¬k ≤ i := by omega
    simp [hi, hki]
  . have hki : k ≤ i := by omega
    by_cases htop : i < 64
    . simp [hi, htop, hki]
    . have hbit : n.testBit i = false := by
        apply Nat.testBit_lt_two_pow
        apply Nat.lt_of_lt_of_le hn (Nat.pow_le_pow_right (by omega) (by omega))
      simp [hi, hki, hbit]

theorem toNat_pos_of_ne_zero {n : UInt64} (h : n ≠ 0) : 0 < n.toNat := by
  apply Nat.pos_of_ne_zero
  intro hnat
  exact h (UInt64.toNat_inj.mp hnat)

def roundUp (n size : Nat) : Nat :=
  (n + (size - 1)) / size * size

theorem le_roundUp {n size : Nat} (h : 0 < size) : n ≤ roundUp n size := by
  unfold roundUp
  have := Nat.div_add_mod (n + (size - 1)) size
  have := Nat.mod_lt (n + (size - 1)) h
  rw [Nat.mul_comm]
  omega

theorem roundUp_lt {n size : Nat} (h : 0 < size) : roundUp n size < n + size := by
  unfold roundUp
  have := Nat.div_mul_le_self (n + (size - 1)) size
  omega

theorem dvd_roundUp (n size : Nat) : size ∣ roundUp n size := by
  unfold roundUp
  apply Nat.dvd_mul_left

theorem roundUp_le_iff {n size k : Nat} (h : 0 < size) (hk : size ∣ k) :
    roundUp n size ≤ k ↔ n ≤ k := by
  constructor
  . apply Nat.le_trans (le_roundUp h)
  . intro hle
    have hlt := roundUp_lt (n := n) h
    apply Nat.le_of_lt_add_of_dvd _ (dvd_roundUp n size) hk
    omega

theorem roundUp_of_dvd {n size : Nat} (h : 0 < size) (hn : size ∣ n) : roundUp n size = n := by
  apply Nat.le_antisymm
  . exact (roundUp_le_iff h hn).mpr (Nat.le_refl n)
  . exact le_roundUp h

theorem roundUp_add_le {n size top : Nat} (htop : size ∣ top) (h : roundUp n size < top) :
    roundUp n size + size ≤ top := by
  apply Nat.le_of_lt_add_of_dvd _ (Nat.dvd_add (dvd_roundUp n size) (Nat.dvd_refl size)) htop
  omega

theorem roundUp_add {b size : Nat} (h : size ∣ b) (n : Nat) :
    roundUp (b + n) size = b + roundUp n size := by
  rcases h with ⟨q, rfl⟩
  unfold roundUp
  cases Nat.eq_zero_or_pos size with
  | inl hzero => simp [hzero]
  | inr hpos =>
    rw [Nat.add_assoc, Nat.add_comm, Nat.add_mul_div_left _ _ hpos, Nat.add_mul, Nat.mul_comm q,
      Nat.add_comm]

namespace Address

@[simp]
theorem add_zero (a : Address) : a + 0 = a := by
  rw [← toNat_inj, toNat_add, Nat.add_zero, Nat.mod_eq_of_lt a.toNat_lt]

theorem isNull_eq_false {a : Address} (h : a ≠ .null) : a.isNull = false := by
  rw [Bool.eq_false_iff, ne_eq, isNull_iff]
  exact h

theorem add_add (a : Address) (m n : Nat) : a + m + n = a + (m + n) := by
  rw [← toNat_inj, toNat_add, toNat_add, toNat_add, Nat.mod_add_mod, Nat.add_assoc]

@[simp]
theorem ofNat_toNat (a : Address) : ofNat a.toNat = a := by
  rw [← toNat_inj]
  apply congrArg UInt64.toNat (UInt64.ofNat_toNat)

theorem mk_toUInt64 {n : Nat} (h : n < ByteOrder.capacity 4) :
    Address.mk (UInt32.ofNat n).toUInt64 = ofNat n := by
  have hlt : n < 4294967296 := h
  rw [← toNat_inj]
  show (UInt32.ofNat n).toUInt64.toNat = (UInt64.ofNat n).toNat
  rw [UInt32.toNat_toUInt64, UInt32.toNat_ofNat', UInt64.toNat_ofNat']
  omega

theorem toNat_add_of_lt {a : Address} {n : Nat} (h : a.toNat + n < UInt64.size) :
    (a + n).toNat = a.toNat + n := by
  rw [toNat_add, Nat.mod_eq_of_lt h]

theorem toNat_alignUp (a : Address) {k : Nat} (hk : k < 64) :
    (a.alignUp (UInt64.ofNat (2 ^ k))).toNat =
      min (a.toNat + (2 ^ k - 1)) (UInt64.size - 1) / 2 ^ k * 2 ^ k := by
  have hsize : UInt64.size = 2 ^ 64 := rfl
  have hlt : 2 ^ k < 2 ^ 64 := Nat.pow_lt_pow_right (by omega) hk
  have hpos : 0 < 2 ^ k := Nat.two_pow_pos k
  have halign : (UInt64.ofNat (2 ^ k)).toNat = 2 ^ k := by
    rw [UInt64.toNat_ofNat', Nat.mod_eq_of_lt hlt]
  have hle : UInt64.ofNat (2 ^ k) ≤ 1 ↔ 2 ^ k ≤ 1 := by
    rw [UInt64.le_iff_toNat_le, halign]
    rfl
  have hmask : (UInt64.ofNat (2 ^ k) - 1).toNat = 2 ^ k - 1 := by
    rw [UInt64.toNat_sub_of_le, halign]
    . rfl
    . rw [UInt64.le_iff_toNat_le, halign]
      exact hpos
  unfold alignUp
  split
  . next h =>
    have hone : 2 ^ k = 1 := by
      have := hle.mp h
      omega
    have := a.toNat_lt
    rw [hone]
    omega
  . show ((saturatingAdd a.value (UInt64.ofNat (2 ^ k) - 1)) &&& _).toNat = _
    rw [UInt64.toNat_and, UInt64.toNat_not, hmask, saturatingAdd_toNat, hmask]
    have hnot : UInt64.size - 1 - (2 ^ k - 1) = 2 ^ 64 - 2 ^ k := by omega
    rw [hnot, and_highMask (by omega) (by omega)]
    rfl

theorem isAlignment_iff {n : UInt64} : isAlignment n ↔ n = 0 ∨ n.toNat.isPowerOfTwo := by
  by_cases hzero : n = 0
  . subst hzero
    simp [isAlignment]
  . have hpos := toNat_pos_of_ne_zero hzero
    have hle : 1 ≤ n := UInt64.le_iff_toNat_le.mpr hpos
    rw [isAlignment, beq_iff_eq, ← UInt64.toNat_inj, UInt64.toNat_and,
      UInt64.toNat_sub_of_le _ _ hle,
      ← Nat.and_sub_one_eq_zero_iff_isPowerOfTwo (Nat.ne_of_gt hpos)]
    simp [hzero]

theorem exists_of_isAlignment {n : UInt64} (h : isAlignment n) :
    ∃ k < 64, max 1 n.toNat = 2 ^ k := by
  rcases isAlignment_iff.mp h with rfl | ⟨k, hk⟩
  . exact ⟨0, by decide, rfl⟩
  . have hpow : 2 ^ k < 2 ^ 64 := hk ▸ n.toNat_lt
    have hpos := Nat.two_pow_pos k
    refine ⟨k, (Nat.pow_lt_pow_iff_right (by decide)).mp hpow, ?_⟩
    omega

theorem dvd_size_of_isAlignment {n : UInt64} (h : isAlignment n) :
    max 1 n.toNat ∣ UInt64.size := by
  rcases exists_of_isAlignment h with ⟨k, hk, hgrain⟩
  have hpow : 2 ^ k ∣ 2 ^ 64 := Nat.pow_dvd_pow 2 (Nat.le_of_lt hk)
  rw [hgrain]
  exact hpow

theorem alignUp_max (a : Address) (n : UInt64) :
    a.alignUp (UInt64.ofNat (max 1 n.toNat)) = a.alignUp n := by
  by_cases hzero : n = 0
  . simp [hzero, alignUp]
  . rw [Nat.max_eq_right (toNat_pos_of_ne_zero hzero), UInt64.ofNat_toNat]

theorem toNat_alignUp_eq_min (a : Address) {n : UInt64} (h : isAlignment n) :
    (a.alignUp n).toNat =
      min (roundUp a.toNat (max 1 n.toNat)) (UInt64.size - max 1 n.toNat) := by
  have hsize : UInt64.size = 2 ^ 64 := rfl
  rcases exists_of_isAlignment h with ⟨k, hk, hgrain⟩
  have hpos : 0 < 2 ^ k := Nat.two_pow_pos k
  have hdvd : 2 ^ k ∣ UInt64.size := Nat.pow_dvd_pow 2 (Nat.le_of_lt hk)
  rw [← alignUp_max, hgrain, toNat_alignUp a hk]
  cases Nat.le_total (a.toNat + (2 ^ k - 1)) (UInt64.size - 1) with
  | inl hle =>
    have hlt := roundUp_lt (n := a.toNat) hpos
    have hroom := roundUp_add_le (n := a.toNat) hdvd (by omega)
    rw [Nat.min_eq_left hle, Nat.min_eq_left (by omega), roundUp]
  | inr hle =>
    have hroundUp := le_roundUp (n := a.toNat) hpos
    rcases hdvd with ⟨q, hq⟩
    have hlast : (UInt64.size - 1) / 2 ^ k = q - 1 := by
      rw [hq, Nat.mul_sub_div 0 _ _ (by omega), Nat.zero_div]
    rw [Nat.min_eq_right hle, Nat.min_eq_right (by omega), hlast, Nat.sub_mul, Nat.one_mul,
      Nat.mul_comm, ← hq]

theorem toNat_alignUp_eq_ite (a : Address) {n : UInt64} (h : isAlignment n) :
    (a.alignUp n).toNat =
      if roundUp a.toNat (max 1 n.toNat) < UInt64.size then roundUp a.toNat (max 1 n.toNat)
      else UInt64.size - max 1 n.toNat := by
  rw [toNat_alignUp_eq_min a h]
  split
  . next hlt =>
    have hroom := roundUp_add_le (dvd_size_of_isAlignment h) hlt
    omega
  . omega

theorem dvd_alignUp (a : Address) {n : UInt64} (h : isAlignment n) :
    max 1 n.toNat ∣ (a.alignUp n).toNat := by
  rw [toNat_alignUp_eq_ite a h]
  split
  . apply dvd_roundUp
  . exact Nat.dvd_sub (dvd_size_of_isAlignment h) (Nat.dvd_refl _)

theorem alignUp_of_dvd {a : Address} {n : UInt64} (h : isAlignment n)
    (ha : max 1 n.toNat ∣ a.toNat) : a.alignUp n = a := by
  have hself := roundUp_of_dvd (by omega) ha
  rw [← toNat_inj, toNat_alignUp_eq_ite a h, hself, if_pos a.toNat_lt]

theorem alignUp_add {a : Address} {size n : Nat} (hsize : size ∣ 8) (ha : size ∣ a.toNat)
    (h : a.toNat + roundUp n size < UInt64.size) :
    (a + n).alignUp (UInt64.ofNat size) = a + roundUp n size := by
  have htop : size ∣ UInt64.size := Nat.dvd_trans hsize (by decide)
  have hmultiple := roundUp_add ha n
  rcases (Nat.dvd_prime_pow Nat.prime_two (m := 3)).mp hsize with ⟨k, hk, rfl⟩
  have hle := le_roundUp (n := n) (Nat.two_pow_pos k)
  have hroom := roundUp_add_le (n := a.toNat + n) htop (by omega)
  rw [← toNat_inj, toNat_alignUp _ (by omega), toNat_add_of_lt (by omega), toNat_add_of_lt h,
    Nat.min_eq_left (by omega)]
  exact hmultiple

end Address

/--
The number of bytes that fields of these sizes take up in a C structure, without the padding behind
the last one.
-/
def extent (sizes : List Nat) : Nat :=
  sizes.foldl (fun n size => roundUp n size + size) 0

namespace Cursor

theorem isAlignment_size (p : Primitive) : Address.isAlignment (UInt64.ofNat p.size) := by
  cases p <;> decide

theorem isAlignment_width (w : PointerWidth) : Address.isAlignment (UInt64.ofNat w.bytes) := by
  cases w <;> decide

theorem field_add (t : Target) {a : Address} {size n : Nat} (hsize : size ∣ 8)
    (ha : size ∣ a.toNat) (h : a.toNat + roundUp n size < UInt64.size) :
    (Cursor.mk t (a + n)).field size = a + roundUp n size :=
  Address.alignUp_add hsize ha h

theorem past_add (t : Target) {a : Address} {size n : Nat} (hsize : size ∣ 8)
    (ha : size ∣ a.toNat) (h : a.toNat + roundUp n size < UInt64.size) :
    (Cursor.mk t (a + n)).past size = ⟨t, a + (roundUp n size + size)⟩ := by
  unfold past
  rw [field_add t hsize ha h]
  simp only [Address.add_add]

end Cursor

end LuaScope
