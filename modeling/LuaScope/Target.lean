/-!
This module contains what has to be known about a target machine before its memory can be read:
the width of a pointer and the order of the bytes in a word.
-/

namespace LuaScope

inductive PointerWidth where
  | four
  | eight
  deriving DecidableEq, Repr, Inhabited

namespace PointerWidth

def bytes : PointerWidth → Nat
  | .four => 4
  | .eight => 8

def ofBytes? : Nat → Option PointerWidth
  | 4 => some .four
  | 8 => some .eight
  | _ => none

def name : PointerWidth → String
  | .four => "Four"
  | .eight => "Eight"

end PointerWidth

inductive ByteOrder where
  | little
  | big
  deriving DecidableEq, Repr, Inhabited

namespace ByteOrder

def name : ByteOrder → String
  | .little => "Little"
  | .big => "Big"

def capacity : Nat → Nat
  | 0 => 1
  | size + 1 => 256 * capacity size

theorem capacity_pos (size : Nat) : 0 < capacity size := by
  induction size with
  | zero => simp [capacity]
  | succ size ih => simp [capacity, ih]

def ofDigits : List UInt8 → Nat
  | [] => 0
  | b :: bs => b.toNat + 256 * ofDigits bs

def toDigits : Nat → Nat → List UInt8
  | 0, _ => []
  | size + 1, n => UInt8.ofNat n :: toDigits size (n / 256)

@[simp]
theorem length_toDigits (size n : Nat) : (toDigits size n).length = size := by
  induction size generalizing n with
  | zero => rfl
  | succ size ih => simp [toDigits, ih]

theorem ofDigits_lt (bs : List UInt8) : ofDigits bs < capacity bs.length := by
  induction bs with
  | nil => simp [ofDigits, capacity]
  | cons b bs ih =>
    have := b.toNat_lt
    simp only [ofDigits, List.length_cons, capacity]
    omega

theorem ofDigits_toDigits (size n : Nat) : ofDigits (toDigits size n) = n % capacity size := by
  induction size generalizing n with
  | zero => simp [ofDigits, toDigits, capacity, Nat.mod_one]
  | succ size ih => rw [toDigits, ofDigits, ih, capacity, Nat.mod_mul, UInt8.toNat_ofNat']

theorem toDigits_ofDigits (bs : List UInt8) : toDigits bs.length (ofDigits bs) = bs := by
  induction bs with
  | nil => rfl
  | cons b bs ih =>
    have := b.toNat_lt
    have hdiv : (b.toNat + 256 * ofDigits bs) / 256 = ofDigits bs := by omega
    have hmod : UInt8.ofNat (b.toNat + 256 * ofDigits bs) = b := by
      rw [← UInt8.toNat_inj, UInt8.toNat_ofNat']
      omega
    simp [toDigits, ofDigits, hdiv, hmod, ih]

def decode (order : ByteOrder) (bytes : List UInt8) : Nat :=
  match order with
  | .little => ofDigits bytes
  | .big => ofDigits bytes.reverse

def encode (order : ByteOrder) (size n : Nat) : List UInt8 :=
  match order with
  | .little => toDigits size n
  | .big => (toDigits size n).reverse

@[simp]
theorem length_encode (order : ByteOrder) (size n : Nat) : (order.encode size n).length = size := by
  cases order <;> simp [encode]

theorem decode_lt (order : ByteOrder) (bytes : List UInt8) :
    order.decode bytes < capacity bytes.length := by
  cases order with
  | little => exact ofDigits_lt bytes
  | big => simpa [decode] using ofDigits_lt bytes.reverse

theorem decode_encode (order : ByteOrder) (size n : Nat) :
    order.decode (order.encode size n) = n % capacity size := by
  cases order <;> simp [decode, encode, ofDigits_toDigits]

theorem encode_decode (order : ByteOrder) (bytes : List UInt8) :
    order.encode bytes.length (order.decode bytes) = bytes := by
  cases order with
  | little => exact toDigits_ofDigits bytes
  | big =>
    have := toDigits_ofDigits bytes.reverse
    rw [List.length_reverse] at this
    simp [decode, encode, this]

end ByteOrder

structure Target where
  width : PointerWidth
  order : ByteOrder
  deriving DecidableEq, Repr, Inhabited

/--
The machine that the inspector itself is built for.
-/
def Target.native : Target := ⟨.eight, .little⟩

end LuaScope
