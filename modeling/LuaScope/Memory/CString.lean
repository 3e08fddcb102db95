import LuaScope.Failure
import LuaScope.Peek

/-!
This module contains the reading of byte strings that end in a zero byte, a byte or a chunk at a
time. The zero is not part of the string, and an unreadable byte ends it too, unless it is the first.
-/

namespace LuaScope

namespace CString

def byByte (address : Address) (max : Nat) : Peek (Except Failure (List UInt8)) :=
  go 0 max #[]
where
  go (offset : Nat) : Nat → Array UInt8 → Peek (Except Failure (List UInt8))
    | 0, out => .done (.ok out.toList)
    | left + 1, out =>
      .read (address + offset) 1 fun reply =>
        match reply with
        | some bytes =>
          if bytes.head? = some 0 then .done (.ok out.toList)
          else go (offset + 1) left (out ++ bytes)
        | none =>
          if offset = 0 then .done (.error (.readFailed address 1)) else .done (.ok out.toList)

/--
The granularity of chunks. None of them crosses a multiple of it.
-/
def chunkSize : Nat := 256

/--
Reads a string of at most `max` bytes with requests for whole chunks. A request may be answered with
fewer bytes than it asked for.
-/
def byChunk (address : Address) (max : Nat) : Peek (Except Failure (List UInt8)) :=
  go max address #[]
where
  go : Nat → Address → Array UInt8 → Peek (Except Failure (List UInt8))
    | 0, _, out => .check (.finished max out.size) (.done (.ok out.toList))
    | fuel + 1, position, out =>
      if max ≤ out.size then .done (.ok out.toList)
      else
        let wanted := min (chunkSize - position.toNat % chunkSize) (max - out.size)
        .read position wanted fun reply =>
          match reply with
          | none | some [] =>
            if out.isEmpty then .done (.error (.readFailed address 1)) else .done (.ok out.toList)
          | some bytes =>
            if bytes.contains 0 then .done (.ok (out.toList ++ bytes.takeWhile (· != 0)))
            else go fuel (position + bytes.length) (out ++ bytes)

end CString

end LuaScope
