import LuaScope.Cursor
import LuaScope.Tag
import LuaScope.Text.Utf8

/-!
This module contains the string objects of the runtime: a header that gives the length, and the
bytes behind it.
-/

namespace LuaScope

def Walk.commonHeader : Walk (Option UInt8) := do
  Walk.skipPointer
  let tag ← Walk.attempt .u8
  Walk.skip .u8
  return tag

def maxShortString : Nat := 40

def maxAlignment : UInt64 := 8

structure StringHeader where
  isLong : Bool
  /-- The number of bytes, without the terminator. -/
  length : Nat
  content : Address
  deriving DecidableEq, Repr

namespace StringHeader

/--
Whether the tag in a header makes its string a long one. It says nothing if it is no string tag.
-/
def longOfTag (version : Version) (tag : Option UInt8) : Option Bool :=
  match tag.map (Tag.classify version) with
  | some .shortString => some false
  | some .longString => some true
  | _ => none

/--
Walks over a header. The hint is what the value that refers to the string says about it. Without a
hint 5.1 goes by the length, 5.2 by the tag in the header or else the length, and the later versions
by the tag alone, which also decides where their length is found.
-/
def walk (version : Version) (hint : Option Bool) : Walk StringHeader := do
  let tag ← Walk.commonHeader
  match version with
  | .v51 =>
    Walk.skip .u8
    Walk.skip .u32
    let length ← Walk.readSize
    Walk.align maxAlignment
    return ⟨hint.getD (maxShortString < length), length, ← Walk.position⟩
  | .v52 =>
    Walk.skip .u8
    Walk.skip .u32
    let length ← Walk.readSize
    Walk.align maxAlignment
    let long := (hint <|> longOfTag version tag).getD (maxShortString < length)
    return ⟨long, length, ← Walk.position⟩
  | .v53 | .v54 =>
    Walk.skip .u8
    let short ← Walk.attempt .u8
    Walk.skip .u32
    let long ← Walk.require (hint <|> longOfTag version tag)
    let length ← if long then Walk.readSize else shortLength short
    if version = .v53 then Walk.align maxAlignment
    return ⟨long, length, ← Walk.position⟩
where
  shortLength (short : Option UInt8) : Walk Nat := do
    Walk.skipPointer
    return (← Walk.require short).toNat

def read (target : Target) (version : Version) (address : Address) (hint : Option Bool) :
    Peek (Option StringHeader) :=
  (walk version hint).start target address

end StringHeader

/--
The granularity of requests for parts of a string. None of them crosses a multiple of it.
-/
def pageSize : Nat := 4096

def Peek.singles (address : Address) (count : Nat) (out : Array UInt8) :
    Peek (Array UInt8 × Bool) :=
  go 0 count out
where
  go (offset : Nat) : Nat → Array UInt8 → Peek (Array UInt8 × Bool)
    | 0, out => .done (out, true)
    | left + 1, out =>
      .read (address + offset) 1 fun reply =>
        match reply with
        | some bytes => go (offset + 1) left (out ++ bytes)
        | none => .done (out, false)

/--
As many bytes of a range as can be read from its start on: whole pages while they are readable, then
single bytes of the page that is not.
-/
def Peek.leading (address : Address) (length : Nat) : Peek (Array UInt8) :=
  go length #[]
where
  go : Nat → Array UInt8 → Peek (Array UInt8)
    | 0, out => .check (.finished length out.size) (.done out)
    | fuel + 1, out =>
      if length ≤ out.size then .done out
      else
        let position := address + out.size
        .check (.difference pageSize (position.toNat % pageSize)) <|
        .check (.difference length out.size) <|
        let chunk := min (pageSize - position.toNat % pageSize) (length - out.size)
        .read position chunk fun reply =>
          match reply with
          | some bytes => go fuel (out ++ bytes)
          | none => do
            let (out, complete) ← Peek.singles position chunk out
            if complete then go fuel out else .done out

namespace StringHeader

/--
The bytes of a string, of which at most `limit` are read, and whether some of the string is missing.
There is none if bytes were wanted and not even the first can be read.
-/
def bytes (h : StringHeader) (limit : Nat) : Peek (Option (List UInt8 × Bool)) := do
  let wanted := min h.length limit
  match ← Peek.bytes h.content wanted with
  | some bytes => return some (bytes, wanted < h.length)
  | none =>
    let bytes ← Peek.leading h.content wanted
    if bytes.isEmpty && 0 < wanted then return none
    return some (bytes.toList, true)

def text (h : StringHeader) (limit : Nat) : Peek (Option (String × Bool)) := do
  return (← h.bytes limit).map fun (bytes, cut) => (Utf8.decodeLossy bytes, cut)

end StringHeader

end LuaScope
