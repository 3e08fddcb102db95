import Mathlib.Algebra.Order.Field.Power
import Mathlib.Data.Rat.Cast.Order
import Mathlib.Tactic.Ring
import LuaScope.Double

/-!
This module contains the numbers that finite doubles stand for. All of them are multiples of the
least positive one, a grain, and the number of grains determines the exponent and the fraction. So
two doubles that are not the same stand for one number only if both are zero.
-/

namespace LuaScope

theorem two_pow_eq_mul {a b c : Nat} (h : c = a + b) : 2 ^ c = 2 ^ a * 2 ^ b := by
  rw [h, Nat.pow_add]

namespace Double

theorem fraction_eq (x : Double) : x.fraction = x.bits.toNat % 2 ^ 52 := by
  unfold fraction
  rw [UInt64.toNat_and]
  apply Nat.and_two_pow_sub_one_eq_mod _ 52

theorem exponentField_eq (x : Double) : x.exponentField = x.bits.toNat / 2 ^ 52 % 2 ^ 11 := by
  unfold exponentField
  rw [UInt64.toNat_and, UInt64.toNat_shiftRight, ← Nat.shiftRight_eq_div_pow]
  apply Nat.and_two_pow_sub_one_eq_mod _ 11

theorem isNegative_iff (x : Double) : x.isNegative = true ↔ 2 ^ 63 ≤ x.bits.toNat := by
  have hlt := x.bits.toNat_lt
  have hshift : (x.bits >>> 63).toNat = x.bits.toNat / 2 ^ 63 := by
    rw [UInt64.toNat_shiftRight]
    apply Nat.shiftRight_eq_div_pow
  unfold isNegative
  rw [beq_iff_eq, ← UInt64.toNat_inj, hshift]
  show _ = 1 ↔ _
  omega

theorem fraction_lt (x : Double) : x.fraction < 2 ^ 52 := by
  rw [fraction_eq]
  apply Nat.mod_lt
  decide

theorem eq_of_fields {x y : Double} (hsign : x.isNegative = y.isNegative)
    (hexponent : x.exponentField = y.exponentField) (hfraction : x.fraction = y.fraction) :
    x = y := by
  have hx := x.bits.toNat_lt
  have hy := y.bits.toNat_lt
  rw [Bool.eq_iff_iff, isNegative_iff, isNegative_iff] at hsign
  rw [exponentField_eq, exponentField_eq] at hexponent
  rw [fraction_eq, fraction_eq] at hfraction
  have hbits : x.bits = y.bits := by
    rw [← UInt64.toNat_inj]
    omega
  rcases x with ⟨bits⟩
  rcases y with ⟨bits'⟩
  exact congrArg Double.mk hbits

def IsFinite (x : Double) : Prop :=
  x.exponentField ≠ 2047

instance (x : Double) : Decidable x.IsFinite :=
  inferInstanceAs (Decidable (_ ≠ _))

theorem IsFinite.isNaN_eq_false {x : Double} (h : x.IsFinite) : x.isNaN = false := by
  simp [isNaN, show x.exponentField ≠ 2047 from h]

def sign (x : Double) : Int :=
  if x.isNegative then -1 else 1

theorem natAbs_sign (x : Double) : x.sign.natAbs = 1 := by
  unfold sign
  split <;> rfl

def toRat (x : Double) : ℚ :=
  x.sign * x.significand * 2 ^ x.exponent

/--
The number of grains in one. A grain is the least positive double.
-/
def grainsOfOne : Nat :=
  2 ^ 1074

def grain : ℚ :=
  (grainsOfOne : ℚ)⁻¹

theorem grainsOfOne_pos : 0 < grainsOfOne := by
  rw [grainsOfOne]
  apply Nat.pow_pos
  decide

theorem two_pow_mul_grainsOfOne (k : Nat) : 2 ^ k * grainsOfOne = 2 ^ (k + 1074) := by
  rw [grainsOfOne, Nat.pow_add]

theorem grain_pos : 0 < grain := by
  unfold grain
  rw [inv_pos, Nat.cast_pos]
  apply grainsOfOne_pos

theorem grainsOfOne_mul_grain : (grainsOfOne : ℚ) * grain = 1 := by
  apply mul_inv_cancel₀
  rw [Nat.cast_ne_zero]
  apply grainsOfOne_pos.ne'

theorem grain_eq : grain = 2 ^ (-(1074 : Nat) : Int) := by
  unfold grain grainsOfOne
  rw [zpow_neg, zpow_natCast, Nat.cast_pow, Nat.cast_ofNat]

def grains (x : Double) : Nat :=
  x.significand * 2 ^ (x.exponentField - 1)

theorem exponent_eq (x : Double) :
    x.exponent = ((x.exponentField - 1 : Nat) : Int) + -(1074 : Nat) := by
  unfold exponent
  split <;> omega

theorem toRat_eq (x : Double) : x.toRat = ((x.sign * x.grains : Int) : ℚ) * grain := by
  unfold toRat grains
  rw [exponent_eq, zpow_add₀ two_ne_zero, zpow_natCast, ← grain_eq]
  push_cast
  ring

theorem grains_lt (x : Double) : x.grains < 2 ^ (x.exponentField + 52) := by
  have hfraction := x.fraction_lt
  unfold grains significand hiddenBit
  split
  . next hzero =>
    rw [hzero]
    simpa using hfraction
  . have hpow : 2 ^ (x.exponentField + 52) = 2 ^ 53 * 2 ^ (x.exponentField - 1) :=
      two_pow_eq_mul (by omega)
    rw [hpow]
    apply Nat.mul_lt_mul_of_pos_right
    . omega
    . apply Nat.two_pow_pos

theorem le_grains {x : Double} (h : x.exponentField ≠ 0) :
    2 ^ (x.exponentField + 51) ≤ x.grains := by
  have hpow : 2 ^ (x.exponentField + 51) = 2 ^ 52 * 2 ^ (x.exponentField - 1) :=
    two_pow_eq_mul (by omega)
  unfold grains significand hiddenBit
  rw [if_neg h, hpow]
  apply Nat.mul_le_mul_right
  omega

theorem exponentField_le_of_grains_le {x y : Double} (h : x.grains ≤ y.grains) :
    x.exponentField ≤ y.exponentField := by
  by_contra hlt
  have hx := le_grains (x := x) (by omega)
  have hy := y.grains_lt
  have hpow : 2 ^ (y.exponentField + 52) ≤ 2 ^ (x.exponentField + 51) :=
    Nat.pow_le_pow_right (by decide) (by omega)
  omega

theorem fields_eq_of_grains_eq {x y : Double} (h : x.grains = y.grains) :
    x.exponentField = y.exponentField ∧ x.fraction = y.fraction := by
  have hexponent : x.exponentField = y.exponentField := by
    apply Nat.le_antisymm
    . apply exponentField_le_of_grains_le (Nat.le_of_eq h)
    . apply exponentField_le_of_grains_le (Nat.le_of_eq h.symm)
  refine ⟨hexponent, ?_⟩
  unfold grains significand at h
  rw [hexponent] at h
  have hsignificand := Nat.eq_of_mul_eq_mul_right (Nat.two_pow_pos _) h
  split at hsignificand <;> omega

theorem grains_eq_zero_iff {x : Double} : x.grains = 0 ↔ x.isZero = true := by
  unfold isZero
  rw [Bool.and_eq_true, beq_iff_eq, beq_iff_eq]
  constructor
  . intro h
    have hexponent : x.exponentField = 0 := by
      by_contra hne
      have hle := le_grains hne
      have hpos : 0 < 2 ^ (x.exponentField + 51) := Nat.two_pow_pos _
      omega
    refine ⟨hexponent, ?_⟩
    simpa [grains, significand, hexponent] using h
  . intro h
    simp [grains, significand, h]

theorem sameNumber_iff {x y : Double} (hx : x.IsFinite) (hy : y.IsFinite) :
    x.sameNumber y = true ↔ x.toRat = y.toRat := by
  unfold sameNumber
  rw [hx.isNaN_eq_false, hy.isNaN_eq_false, toRat_eq, toRat_eq, mul_left_inj' grain_pos.ne',
    Int.cast_inj]
  simp only [Bool.not_false, Bool.true_and, Bool.or_eq_true, Bool.and_eq_true, beq_iff_eq,
    ← grains_eq_zero_iff]
  constructor
  . rintro (rfl | ⟨hzero, hzero'⟩)
    . rfl
    . rw [hzero, hzero']
      simp
  . intro h
    have hgrains : x.grains = y.grains := by
      have habs := congrArg Int.natAbs h
      rwa [Int.natAbs_mul, Int.natAbs_mul, natAbs_sign, natAbs_sign, Nat.one_mul, Nat.one_mul]
        at habs
    have hfields := fields_eq_of_grains_eq hgrains
    by_cases hzero : x.grains = 0
    . exact Or.inr ⟨hzero, hgrains ▸ hzero⟩
    . left
      rw [hgrains] at h hzero
      have hsign := Int.eq_of_mul_eq_mul_right (by omega) h
      apply eq_of_fields _ hfields.1 hfields.2
      unfold sign at hsign
      cases hx : x.isNegative <;> cases hy : y.isNegative <;> simp_all

end Double

end LuaScope
