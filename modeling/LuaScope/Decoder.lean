import LuaScope.Closure
import LuaScope.Value

/-!
This module contains the decoding of values. A value is a cell with eight bytes of payload and a
type tag behind them. Decoding never fails: what cannot be decoded becomes an error value, so that
the values around it are not lost.
-/

namespace LuaScope

def maxValues : Nat := 65536

def defaultMaxString : Nat := 32768

inductive DecodeFault where
  | tagUnreadable (cell : Address)
  | tagInvalid (raw : Int) (cell : Address)
  | tagUnknown (tag : UInt8)
  | payloadUnreadable (what : String) (payload : Address)
  | nullString
  | headerUnreadable (target : Address)
  | contentUnreadable (content : Address)
  | closureUnreadable (target : Address)
  deriving DecidableEq, Repr

def DecodeFault.message : DecodeFault → String
  | .tagUnreadable cell => "failed to read value tag at " ++ cell.text
  | .tagInvalid raw cell =>
    "invalid type tag " ++ Numeral.decimal raw ++ " at " ++ cell.text
  | .tagUnknown tag => "unknown type tag 0x" ++ Numeral.hex tag.toNat
  | .payloadUnreadable what payload => "failed to read " ++ what ++ " at " ++ payload.text
  | .nullString => "null string pointer"
  | .headerUnreadable target => "failed to read string header at " ++ target.text
  | .contentUnreadable content => "failed to read string data at " ++ content.text
  | .closureUnreadable target => "failed to read closure header at " ++ target.text

structure Decoder where
  target : Target
  version : Version
  maxString : Nat
  deriving DecidableEq, Repr

namespace Decoder

def tagType (version : Version) : Primitive :=
  if version.hasByteTag then .u8 else .i32

def stride (d : Decoder) : Nat :=
  ((((Cursor.mk d.target .null).skip .u64).skip (tagType d.version)).align 8).position.toNat

def strideSteps (d : Decoder) : List Cursor.Step :=
  [.skip .u64, .skip (tagType d.version), .alignTo 8]

def decodeString (d : Decoder) (target : Address) (hint : Option Bool) :
    Peek (Except DecodeFault Payload) := do
  if target.isNull then return .error .nullString
  match ← StringHeader.read d.target d.version target hint with
  | none => return .error (.headerUnreadable target)
  | some header =>
    match ← header.text d.maxString with
    | none => return .error (.contentUnreadable header.content)
    | some (text, truncated) =>
      if truncated then
        Peek.report (.stringTruncated target header.length text.utf8ByteSize)
      return .ok (.string text target (if header.isLong then .long else .short))

def decodeClosure (d : Decoder) (target : Address) : Peek (Except DecodeFault Payload) := do
  match ← Closure.isExternal d.target target with
  | none => return .error (.closureUnreadable target)
  | some true => return .ok (.object .externalClosure target)
  | some false => return .ok (.object .luaFunction target)

def decodeScalar (d : Decoder) (p : Primitive) (what : String) (payload : Address)
    (build : p.Carrier → Payload) : Peek (Except DecodeFault Payload) := do
  match ← Peek.scalar d.target.order p payload with
  | some value => return .ok (build value)
  | none => return .error (.payloadUnreadable what payload)

def decodePointer (d : Decoder) (what : String) (payload : Address)
    (build : Address → Peek (Except DecodeFault Payload)) : Peek (Except DecodeFault Payload) := do
  match ← Peek.pointer d.target payload with
  | some target => build target
  | none => return .error (.payloadUnreadable what payload)

def decodeObject (d : Decoder) (what : String) (kind : ObjectKind) (payload : Address) :
    Peek (Except DecodeFault Payload) :=
  d.decodePointer what payload fun target => return .ok (.object kind target)

def decodePayload (d : Decoder) (tag : UInt8) (payload : Address) :
    Peek (Except DecodeFault Payload) :=
  match Tag.classify d.version tag with
  | .nil => return .ok .nil
  | .boolFalse => return .ok (.boolean false)
  | .boolTrue => return .ok (.boolean true)
  | .boolean => d.decodeScalar .i32 "boolean" payload fun raw => .boolean (raw != 0)
  | .lightUserData =>
    d.decodePointer "light userdata" payload fun target => return .ok (.lightUserData target)
  | .float => d.decodeScalar .f64 "number" payload fun x => (Value.float x).payload
  | .integer => d.decodeScalar .i64 "integer" payload fun n => (Value.integer n).payload
  | .string => d.decodePointer "string pointer" payload fun target => d.decodeString target none
  | .shortString =>
    d.decodePointer "string pointer" payload fun target => d.decodeString target (some false)
  | .longString =>
    d.decodePointer "string pointer" payload fun target => d.decodeString target (some true)
  | .table => d.decodeObject "table pointer" .table payload
  | .function => d.decodePointer "function pointer" payload d.decodeClosure
  | .luaClosure => d.decodeObject "function pointer" .luaFunction payload
  | .lightCFunction => d.decodeObject "function pointer" .externalFunction payload
  | .cClosure => d.decodeObject "function pointer" .externalClosure payload
  | .userData => d.decodeObject "userdata pointer" .userData payload
  | .thread => d.decodeObject "thread pointer" .thread payload
  | .unknown raw => do
    Peek.report (.unknownTag payload raw d.version)
    return .error (.tagUnknown raw)

def outcome (decoded : Except DecodeFault Payload) : Value :=
  match decoded with
  | .ok payload => Value.ofPayload payload
  | .error fault => Value.error fault.message

def decodeTagged (d : Decoder) (tag : UInt8) (payload cell : Address) : Peek Value := do
  return (outcome (← d.decodePayload tag payload)).withCell cell

def readTag (d : Decoder) (cell : Address) : Peek (Option Int) := do
  Cursor.verify d.target (.skip .u64)
  Cursor.verify d.target (.read (tagType d.version))
  let c := (Cursor.mk d.target cell).skip .u64
  if d.version.hasByteTag then
    return (← c.read .u8).map fun (tag : UInt8) => (tag.toNat : Int)
  else
    return (← c.read .i32).map fun (tag : Int32) => tag.toInt

def readValue (d : Decoder) (cell : Address) : Peek Value := do
  match ← d.readTag cell with
  | none => return Value.error (DecodeFault.tagUnreadable cell).message
  | some raw =>
    if 0 ≤ raw ∧ raw < 256 then d.decodeTagged (UInt8.ofNat raw.toNat) cell cell
    else return Value.error (DecodeFault.tagInvalid raw cell).message

def readCells (d : Decoder) : Nat → Address → Array Value → Peek (Array Value)
  | 0, _, out => return out
  | count + 1, cell, out => do
    let value ← d.readValue cell
    d.readCells count (cell + d.stride) (out.push value)

def readValues (d : Decoder) (address : Address) (count : Nat) : Peek (Array Value) := do
  if maxValues < count then
    Peek.report (.countCapped address count maxValues)
  let count := min count maxValues
  d.strideSteps.forM (Cursor.verify d.target)
  let values ← d.readCells count address #[]
  Peek.report (.valuesDecoded address count (values.countP Value.isError))
  return values

def readString (d : Decoder) (target : Address) : Peek Value := do
  return outcome (← d.decodeString target none)

end Decoder

end LuaScope
