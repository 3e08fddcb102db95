import LuaScope.Address
import LuaScope.Target

/-!
This module contains the memory of a target as its reader sees it: a request for a range of bytes is
answered or it fails. An answer may be shorter than the range.
-/

namespace LuaScope

structure Memory where
  target : Target
  read : Address → Nat → Option (List UInt8)

end LuaScope
