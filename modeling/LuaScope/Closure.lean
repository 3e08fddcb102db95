import LuaScope.StringObject

/-!
This module contains the closure objects of the runtime, which refer to the prototype of their
function.
-/

namespace LuaScope

namespace Closure

def isExternal (target : Target) (address : Address) : Peek (Option Bool) :=
  Walk.start walk target address
where
  walk : Walk Bool := do
    let _ ← Walk.commonHeader
    return (← Walk.read .u8) != 0

def prototype (target : Target) (version : Version) (address : Address) : Peek (Option Address) :=
  Walk.start walk target address
where
  walk : Walk Address := do
    let _ ← Walk.commonHeader
    if version = .v51 then Walk.skip .u8
    Walk.skip .u8
    Walk.skipPointer
    if version = .v51 then Walk.skipPointer
    let proto ← Walk.readPointer
    Walk.require (if proto.isNull then none else some proto)

end Closure

end LuaScope
