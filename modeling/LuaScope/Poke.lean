import LuaScope.Memory.Snapshot
import LuaScope.Primitive

/-!
This module contains requests to write into target memory. Scalars take their own size, and pointers
take the width of a pointer. A request is carried out as a whole or changes nothing.
-/

namespace LuaScope

structure Poke where
  address : Address
  bytes : List UInt8
  deriving DecidableEq, Repr

namespace Poke

def scalar (order : ByteOrder) (p : Primitive) (address : Address) (value : p.Carrier) : Poke :=
  ⟨address, p.encode order value⟩

def pointer (target : Target) (address value : Address) : Except Failure Poke :=
  match target.width with
  | .eight => .ok (scalar target.order .u64 address value.value)
  | .four =>
    if value.toNat < UInt32.size then .ok (scalar target.order .u32 address value.value.toUInt32)
    else .error (.invalidArgument (value.text ++ " does not fit a 32-bit pointer"))

structure Record where
  result : Except Failure Unit
  image : Snapshot
  writes : List Poke

def run (s : Snapshot) : Except Failure Poke → Record
  | .error failure => ⟨.error failure, s, []⟩
  | .ok p =>
    match s.writeBytes p.address p.bytes with
    | .ok image => ⟨.ok (), image, [p]⟩
    | .error failure => ⟨.error failure, s, [p]⟩

end Poke

end LuaScope
