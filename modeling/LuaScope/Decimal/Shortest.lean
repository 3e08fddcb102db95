/-!
This module contains the search for the shortest decimal that identifies a binary number: of all
decimals that lie in the interval of reals rounding to that number, the ones with the fewest digits
are kept, and of these the one nearest to the number itself.
-/

namespace LuaScope

namespace Decimal

/--
A positive binary number `significand * 2 ^ exponent` together with the interval that rounds to it.
The interval reaches half a unit of the significand in each direction, below a power of two only a
quarter of one, and holds its ends exactly if the significand is even.
-/
structure Binary where
  significand : Nat
  exponent : Int
  narrowBelow : Bool

/--
A positive decimal number `digits * 10 ^ exponent`.
-/
structure Digits where
  digits : Nat
  exponent : Int
  deriving DecidableEq, Repr

/--
A fraction `value / unit` and the lengths of the interval below and above it over the same unit.
-/
structure Scaled where
  value : Nat
  below : Nat
  above : Nat
  unit : Nat
  closed : Bool

def Binary.scaled (b : Binary) : Scaled :=
  let up := 1 <<< b.exponent.toNat
  { value := 4 * b.significand * up
    below := (if b.narrowBelow then 1 else 2) * up
    above := 2 * up
    unit := 4 <<< (-b.exponent).toNat
    closed := b.significand % 2 = 0 }

def Scaled.inPowers (s : Scaled) (k : Int) : Scaled :=
  let down := Nat.pow 10 (-k).toNat
  { s with
    value := s.value * down
    below := s.below * down
    above := s.above * down
    unit := s.unit * Nat.pow 10 k.toNat }

def Scaled.holds (s : Scaled) (n : Nat) : Bool :=
  if s.closed then
    s.value ≤ n * s.unit + s.below && n * s.unit ≤ s.value + s.above
  else
    s.value < n * s.unit + s.below && n * s.unit < s.value + s.above

/--
The multiple of the unit that lies in the interval and next to the value. Of two that are equally
near, the greater one is taken.
-/
def Scaled.nearest? (s : Scaled) : Option Nat :=
  let floor := s.value / s.unit
  let excess := s.value % s.unit
  if s.holds floor then
    if s.holds (floor + 1) && s.unit ≤ 2 * excess then some (floor + 1) else some floor
  else if s.holds (floor + 1) then some (floor + 1)
  else none

/--
The least power of ten above the value, searched from an estimate that is at most a few too low.
-/
def Scaled.magnitude (s : Scaled) : Int :=
  go 8 (((Nat.log2 s.value : Int) - Nat.log2 s.unit - 1) * 30103 / 100000 - 1)
where
  go : Nat → Int → Int
    | 0, k => k
    | fuel + 1, k =>
      if s.value * Nat.pow 10 (-k).toNat < s.unit * Nat.pow 10 k.toNat then k else go fuel (k + 1)

def Digits.strip (d : Digits) : Digits :=
  go 18 d
where
  go : Nat → Digits → Digits
    | 0, d => d
    | fuel + 1, d =>
      if d.digits % 10 = 0 then go fuel ⟨d.digits / 10, d.exponent + 1⟩ else d

/--
The shortest decimal of a positive binary number. Seventeen digits always suffice for a double.
-/
def shortest (b : Binary) : Digits :=
  let s := b.scaled
  let top := s.magnitude
  let found := (List.range 17).findSome? fun n =>
    let k := top - (n + 1 : Nat)
    (s.inPowers k).nearest?.map fun digits => (⟨digits, k⟩ : Digits)
  match found with
  | some d => d.strip
  | none => ⟨(b.significand <<< b.exponent.toNat) * Nat.pow 5 (-b.exponent).toNat, min b.exponent 0⟩

end Decimal

end LuaScope
