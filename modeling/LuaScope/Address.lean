import LuaScope.Misuse
import LuaScope.Numeral

/-!
This module contains the addresses of a target. They are 64 bits wide on every target and moving
one wraps around, while rounding one up stops at the top of the address space.
-/

namespace LuaScope

structure Address where
  value : UInt64
  deriving DecidableEq, Hashable, Repr, Inhabited

def saturatingAdd (a b : UInt64) : UInt64 :=
  if a + b < a then UInt64.ofNat (UInt64.size - 1) else a + b

theorem saturatingAdd_toNat (a b : UInt64) :
    (saturatingAdd a b).toNat = min (a.toNat + b.toNat) (UInt64.size - 1) := by
  have := a.toNat_lt
  have := b.toNat_lt
  unfold saturatingAdd UInt64.size
  split
  . rename_i h
    rw [UInt64.lt_iff_toNat_lt, UInt64.toNat_add] at h
    rw [UInt64.toNat_ofNat']
    omega
  . rename_i h
    rw [UInt64.lt_iff_toNat_lt, UInt64.toNat_add] at h
    rw [UInt64.toNat_add]
    omega

namespace Address

/--
The address that stands for no place. A value whose cell is null was not read from the target.
-/
def null : Address := ⟨0⟩

def isNull (a : Address) : Bool :=
  a.value == 0

theorem isNull_iff (a : Address) : a.isNull ↔ a = null := by
  cases a
  simp [isNull, null]

def ofNat (n : Nat) : Address := ⟨UInt64.ofNat n⟩

def toNat (a : Address) : Nat := a.value.toNat

instance : HAdd Address Nat Address := ⟨fun a n => ⟨a.value + UInt64.ofNat n⟩⟩

instance : HSub Address Nat Address := ⟨fun a n => ⟨a.value - UInt64.ofNat n⟩⟩

instance : Ord Address := ⟨fun a b => compare a.value b.value⟩

theorem toNat_add (a : Address) (n : Nat) : (a + n).toNat = (a.toNat + n) % UInt64.size := by
  show (a.value + UInt64.ofNat n).toNat = _
  rw [UInt64.toNat_add, UInt64.toNat_ofNat', Nat.add_mod_mod]
  rfl

theorem toNat_lt (a : Address) : a.toNat < UInt64.size :=
  a.value.toNat_lt

theorem toNat_inj {a b : Address} : a.toNat = b.toNat ↔ a = b := by
  cases a
  cases b
  simp [toNat, UInt64.toNat_inj]

def checkedAdd (a : Address) (n : Nat) : Option Address :=
  if a.toNat + n < UInt64.size then some (a + n) else none

def offsetFrom (a base : Address) : Option Nat :=
  if base.toNat ≤ a.toNat then some (a.toNat - base.toNat) else none

/--
The next multiple of a power of two. Beyond the last multiple it stays at that one, and an
alignment of zero or one changes nothing.
-/
def alignUp (a : Address) (alignment : UInt64) : Address :=
  if alignment ≤ 1 then a
  else ⟨saturatingAdd a.value (alignment - 1) &&& ~~~(alignment - 1)⟩

/--
The alignments that rounding is defined for: zero, one and the powers of two.
-/
def isAlignment (n : UInt64) : Bool :=
  n &&& (n - 1) == 0

def alignUp? (a : Address) (alignment : UInt64) : Except Misuse Address :=
  if isAlignment alignment then .ok (a.alignUp alignment) else .error .alignment

def hex (a : Address) : String :=
  Numeral.hex a.toNat

def text (a : Address) : String :=
  "0x" ++ a.hex

end Address

end LuaScope
