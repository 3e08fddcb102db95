import LuaScope.Double
import LuaScope.Target

/-!
This module contains the scalar types that fields in target memory have. Each has a size, which is
its alignment too, and a conversion to and from bytes.
-/

namespace LuaScope

inductive Primitive where
  | u8
  | i8
  | u16
  | i16
  | u32
  | i32
  | u64
  | i64
  | f32
  | f64
  deriving DecidableEq, Repr, Inhabited

namespace Primitive

def size : Primitive → Nat
  | .u8 | .i8 => 1
  | .u16 | .i16 => 2
  | .u32 | .i32 | .f32 => 4
  | .u64 | .i64 | .f64 => 8

abbrev Carrier : Primitive → Type
  | .u8 => UInt8
  | .i8 => Int8
  | .u16 => UInt16
  | .i16 => Int16
  | .u32 => UInt32
  | .i32 => Int32
  | .u64 => UInt64
  | .i64 => Int64
  | .f32 => Single
  | .f64 => Double

def ofPattern : (p : Primitive) → Nat → p.Carrier
  | .u8, n => UInt8.ofNat n
  | .i8, n => Int8.ofBitVec (BitVec.ofNat 8 n)
  | .u16, n => UInt16.ofNat n
  | .i16, n => Int16.ofBitVec (BitVec.ofNat 16 n)
  | .u32, n => UInt32.ofNat n
  | .i32, n => Int32.ofBitVec (BitVec.ofNat 32 n)
  | .u64, n => UInt64.ofNat n
  | .i64, n => Int64.ofBitVec (BitVec.ofNat 64 n)
  | .f32, n => ⟨UInt32.ofNat n⟩
  | .f64, n => ⟨UInt64.ofNat n⟩

def pattern : (p : Primitive) → p.Carrier → Nat
  | .u8, v => v.toNat
  | .i8, v => v.toBitVec.toNat
  | .u16, v => v.toNat
  | .i16, v => v.toBitVec.toNat
  | .u32, v => v.toNat
  | .i32, v => v.toBitVec.toNat
  | .u64, v => v.toNat
  | .i64, v => v.toBitVec.toNat
  | .f32, v => v.bits.toNat
  | .f64, v => v.bits.toNat

theorem pattern_lt (p : Primitive) (v : p.Carrier) : p.pattern v < ByteOrder.capacity p.size := by
  cases p
  case u8 => exact UInt8.toNat_lt v
  case i8 => exact BitVec.isLt _
  case u16 => exact UInt16.toNat_lt v
  case i16 => exact BitVec.isLt _
  case u32 => exact UInt32.toNat_lt v
  case i32 => exact BitVec.isLt _
  case u64 => exact UInt64.toNat_lt v
  case i64 => exact BitVec.isLt _
  case f32 => exact UInt32.toNat_lt v.bits
  case f64 => exact UInt64.toNat_lt v.bits

theorem pattern_ofPattern (p : Primitive) (n : Nat) :
    p.pattern (p.ofPattern n) = n % ByteOrder.capacity p.size := by
  cases p <;> simp [pattern, ofPattern, size, ByteOrder.capacity]

theorem ofPattern_pattern (p : Primitive) (v : p.Carrier) : p.ofPattern (p.pattern v) = v := by
  cases p <;> simp [pattern, ofPattern]

/--
Decodes the first bytes of a list, as many as the type has. Missing ones count as zero.
-/
def decode (p : Primitive) (order : ByteOrder) (bytes : List UInt8) : p.Carrier :=
  p.ofPattern (order.decode (bytes.take p.size))

def encode (p : Primitive) (order : ByteOrder) (v : p.Carrier) : List UInt8 :=
  order.encode p.size (p.pattern v)

@[simp]
theorem length_encode (p : Primitive) (order : ByteOrder) (v : p.Carrier) :
    (p.encode order v).length = p.size := by
  simp [encode]

theorem decode_encode (p : Primitive) (order : ByteOrder) (v : p.Carrier) :
    p.decode order (p.encode order v) = v := by
  have htake : (p.encode order v).take p.size = p.encode order v := by
    rw [List.take_of_length_le]
    simp
  rw [decode, htake, encode, ByteOrder.decode_encode, Nat.mod_eq_of_lt (p.pattern_lt v),
    ofPattern_pattern]

theorem encode_decode (p : Primitive) (order : ByteOrder) (bytes : List UInt8)
    (h : bytes.length = p.size) : p.encode order (p.decode order bytes) = bytes := by
  have hlt := order.decode_lt bytes
  rw [h] at hlt
  rw [encode, decode, pattern_ofPattern, List.take_of_length_le (by omega),
    Nat.mod_eq_of_lt hlt, ← h, ByteOrder.encode_decode]

def decode? (p : Primitive) (order : ByteOrder) (bytes : List UInt8) : Option p.Carrier :=
  if bytes.length = p.size then some (p.decode order bytes) else none

end Primitive

end LuaScope
