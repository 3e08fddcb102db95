import Mathlib.Algebra.Order.Ring.Abs
import LuaScope.Proofs.DoubleValue

/-!
This module contains the proof that an integer of up to 64 bits is turned into the double nearest to
it. Distances are compared in grains: no double below the highest power of two in the integer is
nearer than this power, and from there on all doubles are multiples of one unit.
-/

namespace LuaScope

theorem roundHalfEven_spec (n : Nat) {unit : Nat} (hunit : 0 < unit) :
    2 * (roundHalfEven n unit * unit) ≤ 2 * n + unit ∧
      2 * n ≤ 2 * (roundHalfEven n unit * unit) + unit ∧
      (2 * (roundHalfEven n unit * unit) = 2 * n + unit ∨
        2 * n = 2 * (roundHalfEven n unit * unit) + unit → roundHalfEven n unit % 2 = 0) := by
  have hdiv := Nat.div_add_mod' n unit
  have hmod := Nat.mod_lt n hunit
  unfold roundHalfEven
  dsimp only
  split
  . rw [Nat.add_mul, Nat.one_mul]
    omega
  . omega

theorem roundHalfEven_one (n : Nat) : roundHalfEven n 1 = n := by
  have hspec := roundHalfEven_spec n Nat.one_pos
  omega

theorem natAbs_roundHalfEven_le (n j : Nat) {unit : Nat} (hunit : 0 < unit) :
    ((roundHalfEven n unit * unit : Nat) - n : Int).natAbs ≤ ((j * unit : Nat) - n : Int).natAbs ∧
      (((j * unit : Nat) - n : Int).natAbs =
          ((roundHalfEven n unit * unit : Nat) - n : Int).natAbs →
        j ≠ roundHalfEven n unit → roundHalfEven n unit % 2 = 0) := by
  rcases roundHalfEven_spec n hunit with ⟨hle, hge, heven⟩
  rcases Nat.lt_trichotomy j (roundHalfEven n unit) with hlt | heq | hgt
  . have hstep := Nat.mul_le_mul_right unit (Nat.succ_le_of_lt hlt)
    rw [Nat.succ_mul] at hstep
    omega
  . rw [heq]
    omega
  . have hstep := Nat.mul_le_mul_right unit (Nat.succ_le_of_lt hgt)
    rw [Nat.succ_mul] at hstep
    omega

theorem natAbs_mul_sub_mul (a b k : Nat) :
    ((a * k : Nat) - (b * k : Nat) : Int).natAbs = ((a : Int) - b).natAbs * k := by
  rw [Nat.cast_mul, Nat.cast_mul, ← Int.sub_mul, Int.natAbs_mul, Int.natAbs_natCast]

theorem natAbs_sub_mul_of_sign {s : Int} (hs : s = 1 ∨ s = -1) (y b : Int) :
    (y - s * b).natAbs = (s * y - b).natAbs := by
  rcases hs with rfl | rfl <;> omega

theorem natAbs_toInt_le (n : Int64) : n.toInt.natAbs ≤ 2 ^ 63 := by
  have hlow := n.le_toInt
  have hhigh := n.toInt_lt
  omega

theorem natAbs_toInt_lt (n : Int64) : n.toInt.natAbs < 2 ^ 64 := by
  have hle := natAbs_toInt_le n
  omega

namespace Double

variable {n : Nat}

/--
What the last of the 53 highest digits of a number counts.
-/
def lastPlace (n : Nat) : Nat :=
  2 ^ (n.log2 - 52)

/--
The number that the 53 highest digits make when the rest is rounded off.
-/
def rounded (n : Nat) : Nat :=
  roundHalfEven n (lastPlace n)

def nearestNat (n : Nat) : Nat :=
  rounded n * lastPlace n

theorem lastPlace_pos (n : Nat) : 0 < lastPlace n :=
  Nat.two_pow_pos _

theorem nearestNat_eq_self (h : n.log2 ≤ 52) : nearestNat n = n := by
  have hone : lastPlace n = 1 := by
    rw [lastPlace, Nat.sub_eq_zero_of_le h, Nat.pow_zero]
  rw [nearestNat, rounded, hone, roundHalfEven_one, Nat.mul_one]

theorem two_pow_log2 (h : 52 < n.log2) : 2 ^ n.log2 = 2 ^ 52 * lastPlace n :=
  two_pow_eq_mul (by omega)

theorem log2_lt {k : Nat} (hk : 0 < k) (hn : n < 2 ^ k) : n.log2 < k := by
  by_cases h : n = 0
  . rw [h]
    exact hk
  . exact (Nat.log2_lt h).mpr hn

theorem ne_zero_of_log2 (h : 52 < n.log2) : n ≠ 0 := by
  rintro rfl
  simp at h

theorem rounded_bounds (h : 52 < n.log2) : 2 ^ 52 ≤ rounded n ∧ rounded n ≤ 2 ^ 53 := by
  have hlow := Nat.log2_self_le (ne_zero_of_log2 h)
  have hhigh := Nat.lt_log2_self (n := n)
  rcases roundHalfEven_spec n (lastPlace_pos n) with ⟨hle, hge, -⟩
  rw [Nat.pow_succ, two_pow_log2 h] at hhigh
  rw [two_pow_log2 h] at hlow
  constructor
  . by_contra hlt
    have hstep : (rounded n + 1) * lastPlace n ≤ 2 ^ 52 * lastPlace n :=
      Nat.mul_le_mul_right _ (by omega)
    rw [Nat.add_mul, rounded] at hstep
    omega
  . by_contra hgt
    have hstep : (2 ^ 53 + 1) * lastPlace n ≤ rounded n * lastPlace n :=
      Nat.mul_le_mul_right _ (by omega)
    rw [Nat.add_mul, rounded] at hstep
    omega

theorem exists_bitsOfNat (hn : n ≠ 0) :
    ∃ r, 2 ^ 52 ≤ r ∧ r ≤ 2 ^ 53 ∧ bitsOfNat n = (n.log2 + 1022) * 2 ^ 52 + r ∧
      r * 2 ^ (n.log2 + 1022) = nearestNat n * grainsOfOne ∧ (52 < n.log2 → r = rounded n) := by
  unfold bitsOfNat
  rw [if_neg hn]
  dsimp only
  by_cases htop : n.log2 ≤ 52
  . have hlow : 2 ^ 52 = 2 ^ n.log2 * 2 ^ (52 - n.log2) := two_pow_eq_mul (by omega)
    have hhigh : 2 ^ 53 = 2 ^ (n.log2 + 1) * 2 ^ (52 - n.log2) := two_pow_eq_mul (by omega)
    rw [if_pos htop, nearestNat_eq_self htop, Nat.shiftLeft_eq]
    refine ⟨n * 2 ^ (52 - n.log2), ?_, ?_, rfl, ?_, by omega⟩
    . rw [hlow]
      apply Nat.mul_le_mul_right _ (Nat.log2_self_le hn)
    . rw [hhigh]
      apply Nat.mul_le_mul_right _ (Nat.le_of_lt Nat.lt_log2_self)
    . rw [Nat.mul_assoc, grainsOfOne, ← two_pow_eq_mul (c := 1074) (by omega)]
  . rcases rounded_bounds (n := n) (by omega) with ⟨hle, hge⟩
    rw [if_neg htop, Nat.one_shiftLeft]
    refine ⟨_, hle, hge, rfl, ?_, fun _ => rfl⟩
    rw [nearestNat, Nat.mul_assoc, lastPlace, two_pow_mul_grainsOfOne]
    congr 2
    omega

theorem grains_of_bits {x : Double} {e r : Nat} (hbits : x.bits.toNat % 2 ^ 63 = e * 2 ^ 52 + r)
    (hlow : 2 ^ 52 ≤ r) (hhigh : r ≤ 2 ^ 53) (he : e < 2045) :
    x.IsFinite ∧ x.grains = r * 2 ^ e ∧ x.fraction % 2 = r % 2 := by
  have hexponent := x.exponentField_eq
  have hfraction := x.fraction_eq
  unfold IsFinite grains significand hiddenBit
  cases Nat.lt_or_eq_of_le hhigh with
  | inl hlt =>
    have hfield : x.exponentField = e + 1 := by omega
    refine ⟨by omega, ?_, by omega⟩
    rw [hfield, if_neg (by omega)]
    congr 1
    omega
  | inr heq =>
    -- a significand that is rounded up to one digit more carries into the exponent
    have hfield : x.exponentField = e + 2 := by omega
    have hzero : x.fraction = 0 := by omega
    refine ⟨by omega, ?_, by omega⟩
    rw [hfield, if_neg (by omega), hzero, heq, show e + 2 - 1 = e + 1 by omega, Nat.pow_succ]
    ring

theorem ofInt_spec {n : Int} (hn : n.natAbs < 2 ^ 64) :
    (ofInt n).IsFinite ∧ (ofInt n).sign = (if n < 0 then -1 else 1) ∧
      (ofInt n).grains = nearestNat n.natAbs * grainsOfOne ∧
      (52 < n.natAbs.log2 → (ofInt n).fraction % 2 = rounded n.natAbs % 2) := by
  by_cases hzero : n = 0
  . subst hzero
    refine ⟨by decide, by decide, ?_, by decide⟩
    rw [show (ofInt 0).grains = 0 by decide, show nearestNat (0 : Int).natAbs = 0 by decide]
    simp
  . have htop := log2_lt (by decide) hn
    rcases exists_bitsOfNat (n := n.natAbs) (by omega) with
      ⟨r, hlow, hhigh, hbits, hgrains, hround⟩
    have hsum : (ofInt n).bits.toNat =
        (if n < 0 then 2 ^ 63 else 0) + ((n.natAbs.log2 + 1022) * 2 ^ 52 + r) := by
      unfold ofInt
      dsimp only
      rw [hbits, UInt64.toNat_ofNat']
      split <;> omega
    have hmod : (ofInt n).bits.toNat % 2 ^ 63 = (n.natAbs.log2 + 1022) * 2 ^ 52 + r := by
      rw [hsum]
      split <;> omega
    have hneg : (ofInt n).isNegative = true ↔ n < 0 := by
      rw [isNegative_iff, hsum]
      split <;> omega
    rcases grains_of_bits hmod hlow hhigh (by omega) with ⟨hfinite, hvalue, hparity⟩
    refine ⟨hfinite, ?_, hvalue.trans hgrains, ?_⟩
    . simp [sign, hneg]
    . intro h
      rw [hparity, hround h]

theorem toRat_ofInt {n : Int} (hn : n.natAbs < 2 ^ 64) :
    (ofInt n).toRat = ((if n < 0 then -1 else 1) * nearestNat n.natAbs : Int) := by
  rcases ofInt_spec hn with ⟨-, hsign, hgrains, -⟩
  rw [toRat_eq, hsign, hgrains, Nat.cast_mul, ← mul_assoc, Int.cast_mul, mul_assoc,
    Int.cast_natCast, grainsOfOne_mul_grain, mul_one]

theorem dvd_grains {x : Double} {k : Nat} (h : 2 ^ (k + 52) * grainsOfOne ≤ x.grains) :
    2 ^ k * grainsOfOne ∣ x.grains := by
  rw [two_pow_mul_grainsOfOne] at h ⊢
  have hlt := (Nat.pow_lt_pow_iff_right (Nat.one_lt_two)).mp (Nat.lt_of_le_of_lt h x.grains_lt)
  clear h
  unfold grains
  apply Dvd.dvd.mul_left
  apply Nat.pow_dvd_pow
  omega

theorem natAbs_nearestNat_le (n : Nat) {x : Double} {y : Int} (hy : y.natAbs = x.grains) :
    ((nearestNat n * grainsOfOne : Nat) - (n * grainsOfOne : Nat) : Int).natAbs ≤
        (y - (n * grainsOfOne : Nat)).natAbs ∧
      ((y - (n * grainsOfOne : Nat)).natAbs =
          ((nearestNat n * grainsOfOne : Nat) - (n * grainsOfOne : Nat) : Int).natAbs →
        y ≠ (nearestNat n * grainsOfOne : Nat) → 52 < n.log2 ∧ rounded n % 2 = 0) := by
  have hdvd (k : Nat) := dvd_grains (x := x) (k := k)
  have hone := grainsOfOne_pos
  -- nothing else is used of the number of grains, and its digits would be in the way
  generalize grainsOfOne = one at *
  by_cases htop : n.log2 ≤ 52
  . rw [nearestNat_eq_self htop]
    omega
  . have hpow := two_pow_log2 (n := n) (by omega)
    have hlow := Nat.mul_le_mul_right one (Nat.log2_self_le (ne_zero_of_log2 (n := n) (by omega)))
    have hnearest (j : Nat) := natAbs_roundHalfEven_le n j (lastPlace_pos n)
    by_cases hbelow : y < (2 ^ n.log2 * one : Nat)
    . -- the power of two itself is nearer than what is below it
      have hpower := Nat.mul_le_mul_right one (hnearest (2 ^ 52)).1
      rw [← hpow, ← natAbs_mul_sub_mul, ← natAbs_mul_sub_mul] at hpower
      rw [nearestNat, rounded]
      omega
    . have hvalue : y = (x.grains : Int) := by omega
      have hge : 2 ^ (n.log2 - 52 + 52) * one ≤ x.grains := by
        rw [Nat.sub_add_cancel (by omega)]
        omega
      rcases hdvd _ hge with ⟨j, hj⟩
      rw [Nat.mul_comm, ← Nat.mul_assoc] at hj
      rw [hvalue, hj, natAbs_mul_sub_mul, natAbs_mul_sub_mul]
      refine ⟨Nat.mul_le_mul_right _ (hnearest j).1, ?_⟩
      intro heq hne
      refine ⟨by omega, (hnearest j).2 (Nat.eq_of_mul_eq_mul_right hone heq) ?_⟩
      rintro rfl
      apply hne rfl

def gap (n : Int) (x : Double) : Nat :=
  (x.sign * x.grains - n * grainsOfOne).natAbs

theorem abs_toRat_sub (x : Double) (n : Int) : |x.toRat - n| = gap n x * grain := by
  have hscaled : x.toRat - n = ((x.sign * x.grains - n * grainsOfOne : Int) : ℚ) * grain := by
    rw [toRat_eq, Int.cast_sub, sub_mul, Int.cast_mul n, mul_assoc, Int.cast_natCast,
      grainsOfOne_mul_grain, mul_one]
  rw [hscaled, abs_mul, abs_of_pos grain_pos, gap, Nat.cast_natAbs, Int.cast_abs]

theorem gap_ofInt_le {n : Int} (hn : n.natAbs < 2 ^ 64) (x : Double) :
    gap n (ofInt n) ≤ gap n x ∧
      (gap n x = gap n (ofInt n) → x.toRat ≠ (ofInt n).toRat → (ofInt n).fraction % 2 = 0) := by
  rcases ofInt_spec hn with ⟨-, hsign, hgrains, hparity⟩
  generalize hs : (if n < 0 then -1 else 1 : Int) = s at hsign
  have hunit : s = 1 ∨ s = -1 := by
    rw [← hs]
    split
    . right
      rfl
    . left
      rfl
  have hvalue : n = s * n.natAbs := by
    rw [← hs]
    split <;> omega
  -- in the direction of the integer the distances are those to a natural number
  have hgap (x : Double) : gap n x =
      (s * (x.sign * x.grains) - (n.natAbs * grainsOfOne : Nat)).natAbs := by
    rw [gap, ← natAbs_sub_mul_of_sign hunit, Nat.cast_mul, ← mul_assoc, ← hvalue]
  have hself : s * ((ofInt n).sign * (ofInt n).grains) =
      (nearestNat n.natAbs * grainsOfOne : Nat) := by
    rw [hsign, hgrains]
    rcases hunit with rfl | rfl <;> ring
  have hnearest := natAbs_nearestNat_le n.natAbs (x := x) (y := s * (x.sign * x.grains)) (by
    rcases hunit with rfl | rfl <;> simp [Int.natAbs_mul, natAbs_sign])
  rw [hgap, hgap, hself]
  refine ⟨hnearest.1, ?_⟩
  intro heq hne
  have hother : s * (x.sign * x.grains) ≠ (nearestNat n.natAbs * grainsOfOne : Nat) := by
    have hs0 : s ≠ 0 := by
      rcases hunit with rfl | rfl <;> decide
    intro hy
    apply hne
    rw [toRat_eq, toRat_eq, Int.eq_of_mul_eq_mul_left hs0 (hy.trans hself.symm)]
  rcases hnearest.2 heq hother with ⟨htop, heven⟩
  rw [hparity htop, heven]

/--
The double that an integer is rounded to: no finite one is nearer, and if another one is as near the
significand is even.
-/
structure IsNearest (n : Int) (d : Double) : Prop where
  isFinite : d.IsFinite
  nearest : ∀ x : Double, x.IsFinite → |d.toRat - n| ≤ |x.toRat - n|
  even : ∀ x : Double, x.IsFinite → x.toRat ≠ d.toRat → |x.toRat - n| = |d.toRat - n| →
    d.fraction % 2 = 0

theorem isNearest_ofInt {n : Int} (hn : n.natAbs < 2 ^ 64) : IsNearest n (ofInt n) := by
  constructor
  . exact (ofInt_spec hn).1
  . intro x _
    rw [abs_toRat_sub, abs_toRat_sub, mul_le_mul_iff_left₀ grain_pos, Nat.cast_le]
    exact (gap_ofInt_le hn x).1
  . intro x _ hne heq
    rw [abs_toRat_sub, abs_toRat_sub, mul_left_inj' grain_pos.ne', Nat.cast_inj] at heq
    exact (gap_ofInt_le hn x).2 heq hne

theorem nearestNat_eq_iff : nearestNat n = n ↔ ∃ s e : Nat, s ≤ 2 ^ 53 ∧ n = s * 2 ^ e := by
  by_cases htop : n.log2 ≤ 52
  . have hhigh := Nat.lt_log2_self (n := n)
    have hpow : 2 ^ (n.log2 + 1) ≤ 2 ^ 53 := Nat.pow_le_pow_right (by decide) (by omega)
    apply iff_of_true (nearestNat_eq_self htop)
    exact ⟨n, 0, by omega, by simp⟩
  . have hlow := Nat.log2_self_le (ne_zero_of_log2 (n := n) (by omega))
    constructor
    . intro h
      exact ⟨_, _, (rounded_bounds (by omega)).2, h.symm⟩
    . rintro ⟨s, e, hs, he⟩
      -- there are zeros enough behind the digits, or the number is a power of two
      have hdvd : lastPlace n ∣ n := by
        by_cases hzeros : n.log2 - 52 ≤ e
        . nth_rewrite 2 [he]
          exact Dvd.dvd.mul_left (Nat.pow_dvd_pow 2 hzeros) s
        . have hle : s * 2 ^ e ≤ 2 ^ 53 * 2 ^ (n.log2 - 53) :=
            Nat.mul_le_mul hs (Nat.pow_le_pow_right (by decide) (by omega))
          rw [← he, ← two_pow_eq_mul (c := n.log2) (by omega)] at hle
          nth_rewrite 2 [Nat.le_antisymm hle hlow]
          exact Nat.pow_dvd_pow 2 (by omega)
      rcases hdvd with ⟨j, hj⟩
      rw [Nat.mul_comm] at hj
      have hnearest := (natAbs_roundHalfEven_le n j (lastPlace_pos n)).1
      rw [← hj] at hnearest
      rw [nearestNat, rounded]
      omega

/--
The integers of 53 binary digits at most and zeros behind them.
-/
def IsExact (n : Int) : Prop :=
  ∃ s e : Nat, s ≤ 2 ^ 53 ∧ n.natAbs = s * 2 ^ e

theorem toRat_ofInt_eq_iff {n : Int} (hn : n.natAbs < 2 ^ 64) :
    (ofInt n).toRat = n ↔ IsExact n := by
  rw [toRat_ofInt hn, Int.cast_inj, IsExact, ← nearestNat_eq_iff]
  split <;> omega

theorem toRat_ofInt_inj {n m : Int} (hn : n.natAbs < 2 ^ 53) (hm : m.natAbs < 2 ^ 64) :
    (ofInt n).toRat = (ofInt m).toRat ↔ n = m := by
  constructor
  . intro h
    have hexact : IsExact n := ⟨n.natAbs, 0, by omega, by simp⟩
    rw [(toRat_ofInt_eq_iff (by omega)).mpr hexact, toRat_ofInt hm, Int.cast_inj] at h
    have habs : nearestNat m.natAbs = n.natAbs := by
      rw [h]
      split <;> omega
    have htop : m.natAbs.log2 ≤ 52 := by
      by_contra hlt
      have hunit : 2 ^ 1 ≤ lastPlace m.natAbs := Nat.pow_le_pow_right (by decide) (by omega)
      have hstep := Nat.mul_le_mul (rounded_bounds (n := m.natAbs) (by omega)).1 hunit
      rw [← nearestNat] at hstep
      omega
    rw [nearestNat_eq_self htop] at h
    rw [h]
    split <;> omega
  . intro h
    rw [h]

end Double

end LuaScope
