import LuaScope.Failure
import LuaScope.Target

/-!
This module contains what the first bytes of an executable say about the processes that run it.
-/

namespace LuaScope

namespace Executable

def identificationSize : Nat := 16

def pointerWidth (header : List UInt8) : Except Failure PointerWidth :=
  if header.length < identificationSize then .error (.executable "Could not read file magic")
  else
    match header with
    | 0x7f :: 0x45 :: 0x4c :: 0x46 :: 1 :: _ => .ok .four
    | 0x7f :: 0x45 :: 0x4c :: 0x46 :: 2 :: _ => .ok .eight
    | _ => .error (.executable "Unknown file magic")

end Executable

end LuaScope
