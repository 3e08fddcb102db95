import LuaScope.Value
import LuaScope.Proofs.IntegerRounding

/-!
This module contains the proof that the equality of the program is an equivalence of values. Values
are equal exactly if they have the same canonical form, in which neither the kind of a number, nor
the kind and the place of a string, nor the bits of a zero and of what is no number are left. Since
integers are kept as doubles, they are equal if they are rounded to the same one.
-/

namespace LuaScope

namespace Double

/--
One bit pattern for what is no number, and one for zero.
-/
def canonical (x : Double) : Double :=
  if x.isNaN then ⟨0x7FF8000000000000⟩
  else if x.isZero then ⟨0⟩
  else x

theorem isNaN_canonical (x : Double) : x.canonical.isNaN = x.isNaN := by
  unfold canonical
  split
  . next h =>
    rw [h]
    decide
  . next h =>
    rw [Bool.not_eq_true] at h
    rw [h]
    split
    . decide
    . exact h

theorem isZero_canonical (x : Double) : x.canonical.isZero = (!x.isNaN && x.isZero) := by
  unfold canonical
  split
  . next h =>
    rw [h]
    rfl
  . next h =>
    rw [Bool.not_eq_true] at h
    rw [h, Bool.not_false, Bool.true_and]
    split
    . next hzero =>
      rw [hzero]
      decide
    . rfl

theorem canonical_eq_iff {x y : Double} :
    x.canonical = y.canonical ↔ x.sameNumber y = true ∨ (x.isNaN = true ∧ y.isNaN = true) := by
  constructor
  . intro h
    have hnan := congrArg isNaN h
    have hzero := congrArg isZero h
    rw [isNaN_canonical, isNaN_canonical] at hnan
    rw [isZero_canonical, isZero_canonical, hnan] at hzero
    cases hy : y.isNaN with
    | true =>
      right
      rw [hnan]
      exact ⟨hy, rfl⟩
    | false =>
      left
      rw [hy] at hnan hzero
      cases hz : y.isZero <;> simp_all [sameNumber, canonical]
  . rintro (h | ⟨hx, hy⟩)
    . unfold sameNumber at h
      unfold canonical
      grind
    . rw [canonical, canonical, if_pos hx, if_pos hy]

end Double

namespace Payload

def canonical : Payload → Payload
  | .number x _ => .number x.canonical .float
  | .string text _ _ => .string text .null .short
  | p => p

theorem luaEqual_iff (p q : Payload) : p.luaEqual q = true ↔ p.canonical = q.canonical := by
  cases p <;> cases q <;> simp [luaEqual, canonical, Double.canonical_eq_iff]

inductive Variant where
  | error
  | nil
  | boolean
  | lightUserData
  | number
  | string
  | object (kind : ObjectKind)
  deriving DecidableEq

def variant : Payload → Variant
  | .error _ => .error
  | .nil => .nil
  | .boolean _ => .boolean
  | .lightUserData _ => .lightUserData
  | .number _ _ => .number
  | .string _ _ _ => .string
  | .object kind _ => .object kind

theorem variant_canonical (p : Payload) : p.canonical.variant = p.variant := by
  cases p <;> rfl

theorem variant_eq_of_luaEqual {p q : Payload} (h : p.luaEqual q = true) :
    p.variant = q.variant := by
  rw [luaEqual_iff] at h
  rw [← variant_canonical, h, variant_canonical]

def Variant.baseType : Variant → BaseType
  | .error | .nil => .nil
  | .boolean => .boolean
  | .lightUserData => .lightUserData
  | .number => .number
  | .string => .string
  | .object kind => kind.extendedType.base

theorem base_extendedType (p : Payload) : p.extendedType.base = p.variant.baseType := by
  cases p with
  | number x kind => cases kind <;> rfl
  | string text target kind => cases kind <;> rfl
  | _ => rfl

theorem luaEqual_of_sameData {p q : Payload} (h : p.sameData q = true) : p.luaEqual q = true := by
  rw [luaEqual_iff]
  unfold sameData at h
  split at h
  . rw [Bool.and_eq_true] at h
    rw [canonical, canonical, Double.canonical_eq_iff.mpr (Or.inl h.1)]
  . rw [eq_of_beq h]

end Payload

namespace Value

/--
Equality is an equivalence. It goes neither by the cells of the values nor by the place and the kind
of a string, does not hold between different variants, so that equal values are of one type, and
holds of values that are the same data.
-/
theorem luaEqual_equivalence :
    Equivalence (fun v w : Value => v.luaEqual w = true) ∧
    (∀ (v w : Value) (a b : Address), (v.withCell a).luaEqual (w.withCell b) = v.luaEqual w) ∧
    (∀ (v w : Value) (s : String) (a b : Address) (k l : StringKind),
      v.payload = .string s a k → w.payload = .string s b l →
        ∀ u : Value, v.luaEqual u = w.luaEqual u ∧ u.luaEqual v = u.luaEqual w) ∧
    (∀ v w : Value, v.payload.variant ≠ w.payload.variant → v.luaEqual w = false) ∧
    (∀ v w : Value, v.luaEqual w = true → v.baseType = w.baseType) ∧
    (∀ v w : Value, v.sameData w = true → v.luaEqual w = true) := by
  refine ⟨?_, ?_, ?_, ?_, ?_, ?_⟩
  . simp only [luaEqual, Payload.luaEqual_iff]
    exact InvImage.equivalence _ (fun v : Value => v.payload.canonical) eq_equivalence
  . intro v w a b
    simp [luaEqual]
  . intro v w s a b k l hv hw u
    have hcanonical : v.payload.canonical = w.payload.canonical := by
      rw [hv, hw]
      rfl
    constructor <;>
      rw [Bool.eq_iff_iff, luaEqual, luaEqual, Payload.luaEqual_iff, Payload.luaEqual_iff,
        hcanonical]
  . intro v w h
    rw [← Bool.not_eq_true]
    exact mt Payload.variant_eq_of_luaEqual h
  . intro v w h
    unfold baseType extendedType
    rw [Payload.base_extendedType, Payload.base_extendedType, Payload.variant_eq_of_luaEqual h]
  . intro v w h
    simp only [sameData, Bool.and_eq_true] at h
    exact Payload.luaEqual_of_sameData h.1.1

theorem luaEqual_of_zeros :
    let zero := float ⟨0⟩
    let negativeZero := float ⟨0x8000000000000000⟩
    let short := (remoteString "a" ⟨0x1000⟩ .short).withCell ⟨0x2000⟩
    let long := remoteString "a" ⟨0x3000⟩ .long
    zero.sameData negativeZero = true ∧ zero.luaEqual negativeZero = true ∧
      zero.baseType = negativeZero.baseType ∧ short.luaEqual zero = long.luaEqual zero ∧
      (error "a").payload.variant ≠ nil.payload.variant ∧ (error "a").luaEqual nil = false ∧
      (error "a").baseType = nil.baseType := by
  intro zero negativeZero short long
  rcases luaEqual_equivalence with ⟨-, -, hstring, hvariant, hbase, hdata⟩
  have hsame : zero.sameData negativeZero = true := by decide
  have hequal := hdata zero negativeZero hsame
  have hne : (error "a").payload.variant ≠ nil.payload.variant := by decide
  exact ⟨hsame, hequal, hbase _ _ hequal,
    (hstring short long "a" ⟨0x1000⟩ ⟨0x3000⟩ .short .long rfl rfl zero).1, hne,
    hvariant _ _ hne, rfl⟩

theorem luaEqual_number_iff {x y : Double} (hx : x.IsFinite) (hy : y.IsFinite)
    (k l : NumberKind) : (number x k).luaEqual (number y l) = true ↔ x.toRat = y.toRat := by
  rw [← Double.sameNumber_iff hx hy]
  simp [luaEqual, number, ofPayload, Payload.luaEqual, hx.isNaN_eq_false]

/--
An integer is equal to what its nearest double is equal to. This is the integer itself if it has no
more than 53 digits and zeros behind them. Those of fewer digits are equal to no other integer.
-/
theorem luaEqual_integer (n : Int64) :
    Double.IsNearest n.toInt (Double.ofInt n.toInt) ∧
    (∀ m : Int64, (integer n).luaEqual (integer m) = true ↔
      (Double.ofInt n.toInt).toRat = (Double.ofInt m.toInt).toRat) ∧
    (∀ x : Double, x.IsFinite →
      ((integer n).luaEqual (float x) = true ↔ (Double.ofInt n.toInt).toRat = x.toRat)) ∧
    ((∀ x : Double, x.IsFinite → ((integer n).luaEqual (float x) = true ↔ n.toInt = x.toRat)) ↔
      Double.IsExact n.toInt) ∧
    (Double.IsExact n.toInt → ∀ m : Int64, Double.IsExact m.toInt →
      ((integer n).luaEqual (integer m) = true ↔ n = m)) ∧
    (n.toInt.natAbs < 2 ^ 53 → ∀ m : Int64, (integer n).luaEqual (integer m) = true ↔ n = m) := by
  have hfinite (m : Int64) := (Double.ofInt_spec (natAbs_toInt_lt m)).1
  have hexact (m : Int64) := Double.toRat_ofInt_eq_iff (natAbs_toInt_lt m)
  have hinteger (m : Int64) := luaEqual_number_iff (hfinite n) (hfinite m) .integer .integer
  have hfloat {x : Double} (hx : x.IsFinite) := luaEqual_number_iff (hfinite n) hx .integer .float
  refine ⟨Double.isNearest_ofInt (natAbs_toInt_lt n), hinteger, fun x => hfloat, ?_, ?_, ?_⟩
  . constructor
    . intro h
      rw [← hexact, ← (h _ (hfinite n)).mp ((hfloat (hfinite n)).mpr rfl)]
    . intro hn x hx
      rw [← hexact] at hn
      rw [← hn]
      apply hfloat hx
  . intro hn m hm
    rw [← hexact] at hn hm
    apply (hinteger m).trans
    rw [hn, hm, Int.cast_inj, Int64.toInt_inj]
  . intro hn m
    apply (hinteger m).trans
    rw [Double.toRat_ofInt_inj hn (natAbs_toInt_lt m), Int64.toInt_inj]

theorem luaEqual_integer_of_zeros :
    let n : Int64 := 0x3000000000000000
    let x : Double := ⟨0x43C8000000000000⟩
    Double.IsExact n.toInt ∧ x.IsFinite ∧ n.toInt = x.toRat ∧
      (integer n).luaEqual (integer (-n)) = false ∧
      ∀ m : Int64, (integer 7).luaEqual (integer m) = true ↔ 7 = m := by
  intro n x
  rcases luaEqual_integer n with ⟨-, -, -, hfloat, hinteger, -⟩
  rcases luaEqual_integer 7 with ⟨-, -, -, -, -, hsmall⟩
  have hn : Double.IsExact n.toInt := ⟨3, 60, by decide, by decide⟩
  have hneg : Double.IsExact (-n).toInt := ⟨3, 60, by decide, by decide⟩
  have hx : x.IsFinite := by decide
  refine ⟨hn, hx, (hfloat.mpr hn x hx).mp (by decide), ?_, hsmall (by decide)⟩
  rw [← Bool.not_eq_true, hinteger hn _ hneg]
  decide

/--
The least natural number that no double is. It is between two of them, and the lower one is even.
-/
theorem luaEqual_integer_rounded :
    let n : Int64 := 9007199254740993
    let m : Int64 := 9007199254740992
    let x : Double := ⟨0x4340000000000000⟩
    (integer n).luaEqual (integer m) = true ∧ n ≠ m ∧
      x.IsFinite ∧ (integer n).luaEqual (float x) = true ∧ x.toRat ≠ n.toInt := by
  intro n m x
  have hvalue : x.toRat = m.toInt := by
    have hsign : x.sign = 1 := by decide
    have hsignificand : x.significand = 2 ^ 52 := by decide
    have hexponent : x.exponent = 1 := by decide
    rw [Double.toRat, hsign, hsignificand, hexponent, show m.toInt = 2 ^ 53 by decide]
    norm_num
  refine ⟨by decide, by decide, by decide, by decide, ?_⟩
  rw [hvalue, ne_eq, Int.cast_inj]
  decide

end Value

end LuaScope
