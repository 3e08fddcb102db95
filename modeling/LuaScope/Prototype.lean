import LuaScope.Cursor

/-!
This module contains the function prototypes of the runtime. Their fields are the same in all
versions and their order is not: two versions have the pointers first and two have them last.
-/

namespace LuaScope

structure Prototype where
  params : UInt8
  isVararg : Bool
  maxStack : UInt8
  codeSize : Int
  nestedSize : Int
  lineDefined : Int
  lastLineDefined : Int
  nested : Address
  source : Address
  deriving DecidableEq, Repr

namespace Prototype

def line (n : Int) : Nat := n.toNat

def readInt : Walk Int := do
  return (← Walk.read .i32).toInt

/--
The order of 5.1 and 5.2: pointers, numbers, bytes.
-/
def pointersFirst (version : Version) : Walk Prototype := do
  Walk.skipPointers 2
  let nested ← Walk.readPointer
  Walk.skipPointers 3
  if version = .v52 then Walk.skipPointer
  let source ← Walk.readPointer
  Walk.skip .i32
  Walk.skip .i32
  let codeSize ← readInt
  Walk.skip .i32
  let nestedSize ← readInt
  Walk.skip .i32
  let lineDefined ← readInt
  let lastLineDefined ← readInt
  Walk.skipPointer
  if version = .v51 then Walk.skip .u8
  let params ← Walk.read .u8
  let isVararg := (← Walk.read .u8) != 0
  let maxStack ← Walk.read .u8
  return {
    params, isVararg, maxStack, codeSize, nestedSize, lineDefined, lastLineDefined, nested, source }

/--
The order of 5.3 and 5.4: bytes, numbers, pointers.
-/
def bytesFirst (version : Version) : Walk Prototype := do
  let params ← Walk.read .u8
  let isVararg := (← Walk.read .u8) != 0
  let maxStack ← Walk.read .u8
  Walk.skip .i32
  Walk.skip .i32
  let codeSize ← readInt
  Walk.skip .i32
  let nestedSize ← readInt
  Walk.skip .i32
  if version = .v54 then Walk.skip .i32
  let lineDefined ← readInt
  let lastLineDefined ← readInt
  Walk.skipPointers 2
  let nested ← Walk.readPointer
  Walk.skipPointers 4
  let source ← Walk.readPointer
  return {
    params, isVararg, maxStack, codeSize, nestedSize, lineDefined, lastLineDefined, nested, source }

def walk (version : Version) : Walk Prototype := do
  Walk.skipPointer
  Walk.skip .u8
  Walk.skip .u8
  match version with
  | .v51 | .v52 => pointersFirst version
  | .v53 | .v54 => bytesFirst version

def read (target : Target) (version : Version) (address : Address) : Peek (Option Prototype) :=
  (walk version).start target address

end Prototype

end LuaScope
