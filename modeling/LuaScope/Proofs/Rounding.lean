import Mathlib.Order.Bounds.Defs
import Mathlib.Order.MinMax
import LuaScope.Proofs.Alignment

/-!
This module contains the laws of rounding an address up, which hold where it saturates as well. The
result is the least multiple that is not below the address, or the last one of all if they are all
below it. The order of the addresses is kept, and of alignments one after the other the greatest
one decides.
-/

namespace LuaScope

theorem monotone_roundUp {size : Nat} (h : 0 < size) : Monotone (roundUp · size) := by
  intro m n hle
  apply (roundUp_le_iff h (dvd_roundUp n size)).mpr
  exact Nat.le_trans hle (le_roundUp h)

theorem roundUp_roundUp {n fine coarse : Nat} (hfine : 0 < fine) (hcoarse : 0 < coarse)
    (h : fine ∣ coarse) : roundUp (roundUp n fine) coarse = roundUp n coarse := by
  apply Nat.le_antisymm
  . rw [roundUp_le_iff hcoarse (dvd_roundUp n coarse),
      roundUp_le_iff hfine (Nat.dvd_trans h (dvd_roundUp n coarse))]
    exact le_roundUp hcoarse
  . exact monotone_roundUp hcoarse (le_roundUp hfine)

namespace Address

def multiples (n : UInt64) : Set Nat :=
  {k | k < UInt64.size ∧ n.toNat ∣ k}

/--
What an address is rounded up to: the least multiple that is not below it, and the last one of all
if there is none.
-/
structure IsRoundedUp (a : Address) (n : UInt64) (r : Address) : Prop where
  mem : r.toNat ∈ multiples n
  least : (∃ k ∈ multiples n, a.toNat ≤ k) → IsLeast {k ∈ multiples n | a.toNat ≤ k} r.toNat
  last : (∀ k ∈ multiples n, k < a.toNat) →
    r.toNat = UInt64.size - n.toNat ∧ IsGreatest (multiples n) r.toNat

variable {a b : Address} {m n : UInt64}

theorem isRoundedUp_alignUp (h : isAlignment n) (hzero : n ≠ 0) :
    a.IsRoundedUp n (a.alignUp n) := by
  have hpos := toNat_pos_of_ne_zero hzero
  have hround := toNat_alignUp_eq_ite a h
  have hdvd := dvd_alignUp a h
  have htop := dvd_size_of_isAlignment h
  rw [Nat.max_eq_right hpos] at hround hdvd htop
  have hmem : (a.alignUp n).toNat ∈ multiples n := ⟨toNat_lt _, hdvd⟩
  constructor
  case mem => exact hmem
  case least =>
    rintro ⟨k, ⟨hlt, hk⟩, hle⟩
    have hbelow := Nat.lt_of_le_of_lt ((roundUp_le_iff hpos hk).mpr hle) hlt
    rw [if_pos hbelow] at hround
    constructor
    . refine ⟨hmem, ?_⟩
      rw [hround]
      exact le_roundUp hpos
    . rintro l ⟨⟨-, hl⟩, hle⟩
      rw [hround]
      exact (roundUp_le_iff hpos hl).mpr hle
  case last =>
    intro hall
    have hbeyond : ¬roundUp a.toNat n.toNat < UInt64.size := by
      intro hlt
      have hbelow := hall _ ⟨hlt, dvd_roundUp _ _⟩
      exact Nat.not_lt.mpr (le_roundUp hpos) hbelow
    rw [if_neg hbeyond] at hround
    refine ⟨hround, hmem, ?_⟩
    rintro k ⟨hlt, hk⟩
    have hself := roundUp_of_dvd hpos hk
    have hroom := roundUp_add_le htop (hself.trans_lt hlt)
    omega

theorem alignUp_le_alignUp (h : isAlignment n) (hle : a.toNat ≤ b.toNat) :
    (a.alignUp n).toNat ≤ (b.alignUp n).toNat := by
  rw [toNat_alignUp_eq_min a h, toNat_alignUp_eq_min b h]
  apply min_le_min_right
  exact monotone_roundUp (by omega) hle

theorem alignUp_alignUp_self (h : isAlignment n) : (a.alignUp n).alignUp n = a.alignUp n :=
  alignUp_of_dvd h (dvd_alignUp a h)

theorem dvd_of_isAlignment (hm : isAlignment m) (hn : isAlignment n) (h : m ≤ n) :
    max 1 m.toNat ∣ max 1 n.toNat := by
  rcases exists_of_isAlignment hm with ⟨j, -, hj⟩
  rcases exists_of_isAlignment hn with ⟨k, -, hk⟩
  rw [UInt64.le_iff_toNat_le] at h
  rw [hj, hk]
  apply Nat.pow_dvd_pow
  apply (Nat.pow_le_pow_iff_right (a := 2) (by omega)).mp
  omega

theorem alignUp_alignUp_of_le (hm : isAlignment m) (hn : isAlignment n) (h : m ≤ n) :
    (a.alignUp m).alignUp n = a.alignUp n := by
  have hdvd := dvd_of_isAlignment hm hn h
  rw [UInt64.le_iff_toNat_le] at h
  rw [← toNat_inj, toNat_alignUp_eq_min _ hn, toNat_alignUp_eq_min _ hm,
    toNat_alignUp_eq_min _ hn]
  have hmono : Monotone (roundUp · (max 1 n.toNat)) := monotone_roundUp (by omega)
  -- the last multiple of the finer alignment is not below that of the coarser one, so that what
  -- saturates at the first saturates again
  have hlast : UInt64.size - max 1 n.toNat ≤
      roundUp (UInt64.size - max 1 m.toNat) (max 1 n.toNat) := by
    apply Nat.le_trans _ (le_roundUp (by omega))
    omega
  have hmin : roundUp (min (roundUp a.toNat (max 1 m.toNat)) (UInt64.size - max 1 m.toNat))
        (max 1 n.toNat) =
      min (roundUp (roundUp a.toNat (max 1 m.toNat)) (max 1 n.toNat))
        (roundUp (UInt64.size - max 1 m.toNat) (max 1 n.toNat)) :=
    hmono.map_min
  rw [hmin, roundUp_roundUp (by omega) (by omega) hdvd, Nat.min_assoc, Nat.min_eq_right hlast]

theorem alignUp_alignUp_of_ge (hm : isAlignment m) (hn : isAlignment n) (h : n ≤ m) :
    (a.alignUp m).alignUp n = a.alignUp m := by
  apply alignUp_of_dvd hn
  exact Nat.dvd_trans (dvd_of_isAlignment hn hm h) (dvd_alignUp a hm)

theorem alignUp_alignUp (hm : isAlignment m) (hn : isAlignment n) :
    (a.alignUp m).alignUp n = a.alignUp (max m n) := by
  cases UInt64.le_total m n with
  | inl h =>
    have hmax : max m n = n := if_pos h
    rw [hmax, alignUp_alignUp_of_le hm hn h]
  | inr h =>
    have hmax : max m n = m := by
      rw [← UInt64.toNat_inj, UInt64.toNat_max, Nat.max_eq_left (UInt64.le_iff_toNat_le.mp h)]
    rw [hmax, alignUp_alignUp_of_ge hm hn h]

theorem alignUp_rounds_up (a b : Address) {m n : UInt64}
    (hm : m = 0 ∨ m.toNat.isPowerOfTwo) (hn : n = 0 ∨ n.toNat.isPowerOfTwo) :
    a.alignUp? n = .ok (a.alignUp n) ∧
    (n = 0 → a.alignUp n = a) ∧
    (n ≠ 0 → a.IsRoundedUp n (a.alignUp n)) ∧
    (a.toNat ≤ b.toNat → (a.alignUp n).toNat ≤ (b.alignUp n).toNat) ∧
    (a.alignUp n).alignUp n = a.alignUp n ∧
    (a.alignUp m).alignUp n = a.alignUp (max m n) := by
  have hm := isAlignment_iff.mpr hm
  have hn := isAlignment_iff.mpr hn
  refine ⟨if_pos hn, ?_, isRoundedUp_alignUp hn, alignUp_le_alignUp hn, alignUp_alignUp_self hn,
    alignUp_alignUp hm hn⟩
  rintro rfl
  rfl

theorem alignUp_rounds_up_at_top :
    let a : Address := ⟨0xFFFFFFFFFFFFFFFD⟩
    let b : Address := ⟨0xFFFFFFFFFFFFFFFF⟩
    let m : UInt64 := 8
    let n : UInt64 := 4096
    (m = 0 ∨ m.toNat.isPowerOfTwo) ∧ (n = 0 ∨ n.toNat.isPowerOfTwo) ∧ n ≠ 0 ∧
    a.toNat ≤ b.toNat ∧ (∀ k ∈ multiples n, k < a.toNat) ∧
    a.alignUp? n = .ok ⟨0xFFFFFFFFFFFFF000⟩ ∧
    IsGreatest (multiples n) (a.alignUp n).toNat ∧
    (a.alignUp n).toNat ≤ (b.alignUp n).toNat ∧
    (a.alignUp m).alignUp n = a.alignUp n := by
  intro a b m n
  have hm : m = 0 ∨ m.toNat.isPowerOfTwo := Or.inr ⟨3, rfl⟩
  have hn : n = 0 ∨ n.toNat.isPowerOfTwo := Or.inr ⟨12, rfl⟩
  have hzero : n ≠ 0 := by decide
  have hle : a.toNat ≤ b.toNat := by decide
  have hall : ∀ k ∈ multiples n, k < a.toNat := by
    rintro k ⟨hlt, hk⟩
    change k < 18446744073709551616 at hlt
    change 4096 ∣ k at hk
    show k < 18446744073709551613
    omega
  have hresult : a.alignUp n = ⟨0xFFFFFFFFFFFFF000⟩ := by decide
  rcases alignUp_rounds_up a b hm hn with ⟨hok, -, hround, hmono, -, hcompose⟩
  exact ⟨hm, hn, hzero, hle, hall, hok.trans (congrArg Except.ok hresult),
    ((hround hzero).last hall).2, hmono hle, hcompose⟩

end Address

end LuaScope
