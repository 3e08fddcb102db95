import LuaScope.Proofs.IntegerRounding
import LuaScope.Proofs.Numerals
import LuaScope.Value.Text

/-!
This module contains what the text of an integer says. It is the numeral of the integer that comes
back from the nearest double, which is off by half a unit of the greatest doubles of 64 bits at most
and keeps the order.
-/

namespace LuaScope

namespace Double

variable {n m : Int}

def nearestInt (n : Int) : Int :=
  (if n < 0 then -1 else 1) * nearestNat n.natAbs

theorem mul_two_pow_div (s e c : Nat) : s * 2 ^ (e - c) / 2 ^ (c - e) = s * 2 ^ e / 2 ^ c := by
  rcases Nat.le_total e c with hle | hle
  . have hpow : 2 ^ c = 2 ^ (c - e) * 2 ^ e := two_pow_eq_mul (by omega)
    rw [hpow, Nat.mul_div_mul_right _ _ (Nat.two_pow_pos e), Nat.sub_eq_zero_of_le hle,
      Nat.pow_zero, Nat.mul_one]
  . have hpow : 2 ^ e = 2 ^ (e - c) * 2 ^ c := two_pow_eq_mul (by omega)
    rw [hpow, ← Nat.mul_assoc, Nat.mul_div_cancel _ (Nat.two_pow_pos c), Nat.sub_eq_zero_of_le hle,
      Nat.pow_zero, Nat.div_one]

theorem floorMagnitude_eq (x : Double) : x.floorMagnitude = x.grains / grainsOfOne := by
  have hleft : x.exponent.toNat = x.exponentField - 1 - 1074 := by
    rw [exponent_eq]
    omega
  have hright : (-x.exponent).toNat = 1074 - (x.exponentField - 1) := by
    rw [exponent_eq]
    omega
  unfold floorMagnitude grains grainsOfOne
  rw [hleft, hright, Nat.shiftRight_eq_div_pow, Nat.shiftLeft_eq, mul_two_pow_div]

theorem nearestInt_mono (hn : n.natAbs < 2 ^ 64) (hm : m.natAbs < 2 ^ 64) (h : n ≤ m) :
    nearestInt n ≤ nearestInt m := by
  rcases Int.lt_or_eq_of_le h with hlt | rfl
  . have hvalue (k : Int) (hk : k.natAbs < 2 ^ 64) : (ofInt k).toRat = nearestInt k :=
      toRat_ofInt hk
    have hlow := (isNearest_ofInt hn).nearest (ofInt m) (isNearest_ofInt hm).isFinite
    have hhigh := (isNearest_ofInt hm).nearest (ofInt n) (isNearest_ofInt hn).isFinite
    rw [hvalue n hn, hvalue m hm] at hlow hhigh
    have hlow : |nearestInt n - n| ≤ |nearestInt m - n| := by exact_mod_cast hlow
    have hhigh : |nearestInt m - m| ≤ |nearestInt n - m| := by exact_mod_cast hhigh
    rw [Int.abs_eq_natAbs, Int.abs_eq_natAbs] at hlow hhigh
    omega
  . exact Int.le_refl _

theorem abs_nearestInt_sub_le (hn : n.natAbs ≤ 2 ^ 63) : |nearestInt n - n| ≤ 512 := by
  have hdistance : 2 * nearestNat n.natAbs ≤ 2 * n.natAbs + 1024 ∧
      2 * n.natAbs ≤ 2 * nearestNat n.natAbs + 1024 := by
    rcases Nat.lt_or_eq_of_le hn with hlt | heq
    . rcases roundHalfEven_spec n.natAbs (lastPlace_pos n.natAbs) with ⟨hhigh, hlow, -⟩
      have hunit : lastPlace n.natAbs ≤ 2 ^ 10 := by
        apply Nat.pow_le_pow_right (by decide)
        have htop := log2_lt (by decide) hlt
        omega
      rw [nearestNat, rounded]
      omega
    . -- the power of two behind them is exact, though its neighbours are farther off
      rw [heq, nearestNat_eq_iff.mpr ⟨1, 63, by decide, by decide⟩]
      omega
  rw [Int.abs_eq_natAbs, nearestInt]
  split <;> omega

theorem truncate_ofInt (hn : n.natAbs < 2 ^ 64) :
    (ofInt n).truncate = max (-2 ^ 63) (min (nearestInt n) (2 ^ 63 - 1)) := by
  rcases ofInt_spec hn with ⟨hfinite, hsign, hgrains, -⟩
  have hmagnitude : (ofInt n).floorMagnitude = nearestNat n.natAbs := by
    rw [floorMagnitude_eq, hgrains, Nat.mul_div_cancel _ grainsOfOne_pos]
  have hnegative : (ofInt n).isNegative = true ↔ n < 0 := by
    unfold sign at hsign
    split at hsign <;> split at hsign <;> simp_all
  unfold truncate nearestInt
  rw [hfinite.isNaN_eq_false, hmagnitude, Int64.toInt_minValue, Int64.toInt_maxValue]
  by_cases hn : n < 0
  . simp only [hnegative.mpr hn, hn, if_true, Bool.false_eq_true, if_false]
    omega
  . simp only [mt hnegative.mp hn, hn, Bool.false_eq_true, if_false]
    omega

theorem nearestNat_nearestNat (n : Nat) : nearestNat (nearestNat n) = nearestNat n := by
  by_cases htop : n.log2 ≤ 52
  . rw [nearestNat_eq_self htop, nearestNat_eq_self htop]
  . exact nearestNat_eq_iff.mpr ⟨_, _, (rounded_bounds (by omega)).2, rfl⟩

theorem nearestInt_nearestInt (n : Int) : nearestInt (nearestInt n) = nearestInt n := by
  have habs : (nearestInt n).natAbs = nearestNat n.natAbs := by
    unfold nearestInt
    split <;> omega
  have hself := nearestNat_nearestNat n.natAbs
  nth_rewrite 1 [nearestInt]
  rw [habs, hself]
  unfold nearestInt at *
  split <;> split <;> omega

end Double

namespace Value

/--
The integer whose numerals the text of a value is: the decimal one in any radix but 16, and there the
hexadecimal one of its remainder modulo `2 ^ 64`.
-/
def Renders (v : Value) (w : Int64) : Prop :=
  (∀ radix, radix ≠ 16 → Numeral.IsDecimal w.toInt (v.text radix).toList) ∧
    Numeral.IsNumeral 16 (w.toInt % 2 ^ 64).toNat (v.text 16).toList

theorem Renders.eq {v : Value} {w w' : Int64} (h : v.Renders w) (h' : v.Renders w') : w = w' :=
  Int64.toInt_inj.mp ((h.1 10 (by decide)).eq (h'.1 10 (by decide)))

def shown (n : Int64) : Int64 :=
  Int64.ofInt (Double.ofInt n.toInt).truncate

theorem toInt_shown (n : Int64) :
    (shown n).toInt = max (-2 ^ 63) (min (Double.nearestInt n.toInt) (2 ^ 63 - 1)) := by
  rw [shown, Double.truncate_ofInt (natAbs_toInt_lt n), Int64.toInt_ofInt_of_le] <;> omega

theorem text_integer (n : Int64) (radix : Nat) :
    (integer n).text radix = integerText radix (shown n).toInt := by
  rw [toInt_shown, ← Double.truncate_ofInt (natAbs_toInt_lt n)]
  rfl

theorem renders_shown (n : Int64) : (integer n).Renders (shown n) := by
  constructor
  . intro radix hradix
    rw [text_integer, integerText, if_neg hradix]
    apply Numeral.isDecimal_decimal
  . have hword (x : Int) : (Int64.ofInt x).toUInt64.toNat = (x % 2 ^ 64).toNat :=
      BitVec.toNat_ofInt x
    rw [text_integer, integerText, if_pos rfl, hword]
    apply Numeral.isNumeral_text <;> decide

theorem shown_shown (n : Int64) : shown (shown n) = shown n := by
  rw [← Int64.toInt_inj, toInt_shown, toInt_shown]
  have hself := Double.nearestInt_nearestInt n.toInt
  generalize Double.nearestInt n.toInt = x at hself
  -- an end that a double is beyond is shown as itself
  have hlow : Double.nearestInt (-2 ^ 63) = -2 ^ 63 := by decide +kernel
  have hhigh : Double.nearestInt (2 ^ 63 - 1) = 2 ^ 63 := by decide +kernel
  by_cases hbelow : x < -2 ^ 63
  . rw [show max (-2 ^ 63) (min x (2 ^ 63 - 1)) = -2 ^ 63 by omega, hlow]
    decide
  . by_cases habove : 2 ^ 63 - 1 < x
    . rw [show max (-2 ^ 63) (min x (2 ^ 63 - 1)) = 2 ^ 63 - 1 by omega, hhigh]
      decide
    . rw [show max (-2 ^ 63) (min x (2 ^ 63 - 1)) = x by omega, hself]
      omega

theorem shown_le_shown {n m : Int64} (h : n ≤ m) : shown n ≤ shown m := by
  rw [Int64.le_iff_toInt_le] at h ⊢
  have hmono := Double.nearestInt_mono (natAbs_toInt_lt n) (natAbs_toInt_lt m) h
  rw [toInt_shown, toInt_shown]
  omega

theorem shown_eq_self {n : Int64} (h : |n.toInt| ≤ 2 ^ 53) : shown n = n := by
  rw [Int.abs_eq_natAbs] at h
  have hself : Double.nearestNat n.toInt.natAbs = n.toInt.natAbs :=
    Double.nearestNat_eq_iff.mpr ⟨n.toInt.natAbs, 0, by omega, by simp⟩
  rw [← Int64.toInt_inj, toInt_shown, Double.nearestInt, hself]
  split <;> omega

theorem abs_shown_sub_le (n : Int64) : |(shown n).toInt - n.toInt| ≤ 512 := by
  have hclose := Double.abs_nearestInt_sub_le (natAbs_toInt_le n)
  have hlow := n.le_toInt
  have hhigh := n.toInt_lt
  rw [Int.abs_eq_natAbs] at hclose ⊢
  rw [toInt_shown]
  omega

/--
An integer is shown as the one that its nearest double is, as far as there is one of 64 bits. Up to
`2 ^ 53` this is the integer itself, and otherwise it is not farther off than 512. The order is kept,
and what is shown is shown as itself.
-/
theorem integer_renders (n : Int64) :
    ∃ w, (∀ v, (integer n).Renders v ↔ v = w) ∧
      (|n.toInt| ≤ 2 ^ 53 → w = n) ∧
      |w.toInt - n.toInt| ≤ 512 ∧
      (∀ m v, n ≤ m → (integer m).Renders v → w ≤ v) ∧
      ∀ radix, (integer w).text radix = (integer n).text radix := by
  refine ⟨shown n, ?_, shown_eq_self, abs_shown_sub_le n, ?_, ?_⟩
  . intro v
    constructor
    . intro h
      exact h.eq (renders_shown n)
    . rintro rfl
      exact renders_shown n
  . intro m v h hv
    rw [hv.eq (renders_shown m)]
    exact shown_le_shown h
  . intro radix
    rw [text_integer, text_integer, shown_shown]

/--
The least natural number that no double is.
-/
example : (integer 9007199254740993).text 10 = "9007199254740992" := by
  decide +kernel

theorem integer_renders_greatest :
    let n : Int64 := 9007199254740992
    let greatest : Int64 := 9223372036854775807
    |n.toInt| ≤ 2 ^ 53 ∧ n ≤ greatest ∧ (integer greatest).Renders greatest ∧
      ∃ w, (integer n).Renders w ∧ w = n ∧ w ≤ greatest := by
  intro n greatest
  rcases integer_renders n with ⟨w, hrenders, hself, -, hmono, -⟩
  have hsmall : |n.toInt| ≤ 2 ^ 53 := by decide
  have hle : n ≤ greatest := by decide
  have hgreatest : (integer greatest).Renders greatest := by
    have hshown : shown greatest = greatest := by decide +kernel
    nth_rewrite 2 [← hshown]
    exact renders_shown greatest
  exact ⟨hsmall, hle, hgreatest, w, (hrenders w).mpr rfl, hself hsmall,
    hmono greatest greatest hle hgreatest⟩

end Value

end LuaScope
