import LuaScope.Decimal.Shortest

/-!
This module contains floating point numbers as their bit patterns, a sign, an exponent field and a
fraction, and the conversions between them and integers.
-/

namespace LuaScope

structure Single where
  bits : UInt32
  deriving DecidableEq, Hashable, Repr, Inhabited

def Single.isNaN (x : Single) : Bool :=
  (x.bits >>> 23) &&& 0xFF == 0xFF && x.bits &&& 0x7FFFFF != 0

structure Double where
  bits : UInt64
  deriving DecidableEq, Hashable, Repr, Inhabited

def roundHalfEven (n unit : Nat) : Nat :=
  let floor := n / unit
  let excess := 2 * (n % unit)
  if unit < excess ∨ (excess = unit ∧ floor % 2 = 1) then floor + 1 else floor

namespace Double

/--
The bit above the fraction, which every number has that is not below the least exponent: `2 ^ 52`.
-/
def hiddenBit : Nat := 0x10000000000000

def isNegative (x : Double) : Bool :=
  x.bits >>> 63 == 1

def exponentField (x : Double) : Nat :=
  ((x.bits >>> 52) &&& 0x7FF).toNat

def fraction (x : Double) : Nat :=
  (x.bits &&& 0xFFFFFFFFFFFFF).toNat

def isNaN (x : Double) : Bool :=
  x.exponentField == 2047 && x.fraction != 0

def isInfinite (x : Double) : Bool :=
  x.exponentField == 2047 && x.fraction == 0

def isZero (x : Double) : Bool :=
  x.exponentField == 0 && x.fraction == 0

/--
The magnitude of a finite number is `significand * 2 ^ exponent`.
-/
def significand (x : Double) : Nat :=
  if x.exponentField = 0 then x.fraction else hiddenBit + x.fraction

def exponent (x : Double) : Int :=
  if x.exponentField = 0 then -1074 else x.exponentField - 1075

def magnitude (x : Double) : Decimal.Binary :=
  { significand := x.significand
    exponent := x.exponent
    narrowBelow := x.fraction == 0 && 1 < x.exponentField }

/--
Equality of the numbers: a number that is none equals nothing, and both zeros are equal.
-/
def sameNumber (x y : Double) : Bool :=
  !x.isNaN && !y.isNaN && (x == y || (x.isZero && y.isZero))

/--
The bits of the double nearest to a natural number below `2 ^ 1023`, a half going to the even
significand. A significand rounded up to `2 ^ 53` carries into the exponent field.
-/
def bitsOfNat (n : Nat) : Nat :=
  if n = 0 then 0
  else
    let top := n.log2
    let rounded := if top ≤ 52 then n <<< (52 - top) else roundHalfEven n (1 <<< (top - 52))
    (top + 1022) * hiddenBit + rounded

def ofInt (n : Int) : Double :=
  let sign := if n < 0 then 0x8000000000000000 else 0
  ⟨UInt64.ofNat (sign + bitsOfNat n.natAbs)⟩

def floorMagnitude (x : Double) : Nat :=
  x.significand <<< x.exponent.toNat >>> (-x.exponent).toNat

/--
The number without its fraction, moved to the nearest end of the 64-bit integers if it lies beyond
them. What is no number counts as zero.
-/
def truncate (x : Double) : Int :=
  if x.isNaN then 0
  else if x.isNegative then max (-(x.floorMagnitude : Int)) Int64.minValue.toInt
  else min (x.floorMagnitude : Int) Int64.maxValue.toInt

end Double

end LuaScope
