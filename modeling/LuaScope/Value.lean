import LuaScope.Address
import LuaScope.Double

/-!
This module contains the values of a Lua program as they are found in its memory. A value knows the
cell it was decoded from, and one that refers to an object knows the address of that object.
-/

namespace LuaScope

inductive NumberKind where
  | integer
  | float
  deriving DecidableEq, Repr

inductive StringKind where
  | short
  | long
  deriving DecidableEq, Repr

inductive ObjectKind where
  | table
  | luaFunction
  /-- A function of the host without upvalues. -/
  | externalFunction
  /-- A function of the host with upvalues. -/
  | externalClosure
  | userData
  | thread
  deriving DecidableEq, Repr

inductive Payload where
  | error (message : String)
  | nil
  | boolean (b : Bool)
  | lightUserData (pointer : Address)
  /-- Integers are kept as the nearest double. -/
  | number (value : Double) (kind : NumberKind)
  | string (text : String) (target : Address) (kind : StringKind)
  | object (kind : ObjectKind) (target : Address)
  deriving DecidableEq, Repr

inductive BaseType where
  | nil
  | boolean
  | lightUserData
  | number
  | string
  | table
  | function
  | userData
  | thread
  deriving DecidableEq, Repr

inductive ExtendedType where
  | nil
  | boolean
  | lightUserData
  | floatNumber
  | integerNumber
  | shortString
  | longString
  | table
  | luaFunction
  | externalFunction
  | externalClosure
  | userData
  | thread
  deriving DecidableEq, Repr

def ExtendedType.base : ExtendedType → BaseType
  | .nil => .nil
  | .boolean => .boolean
  | .lightUserData => .lightUserData
  | .floatNumber | .integerNumber => .number
  | .shortString | .longString => .string
  | .table => .table
  | .luaFunction | .externalFunction | .externalClosure => .function
  | .userData => .userData
  | .thread => .thread

structure DisplayFlags where
  bits : UInt32
  deriving DecidableEq, Repr

namespace DisplayFlags

def none : DisplayFlags := ⟨0⟩

/-- The value cannot be edited in place. -/
def readOnly : DisplayFlags := ⟨1⟩

/-- The value has no children. -/
def builtin : DisplayFlags := ⟨2⟩

def boolean : DisplayFlags := ⟨4⟩

def booleanTrue : DisplayFlags := ⟨8⟩

instance : OrOp DisplayFlags := ⟨fun a b => ⟨a.bits ||| b.bits⟩⟩

def contains (a b : DisplayFlags) : Bool :=
  a.bits &&& b.bits == b.bits

end DisplayFlags

def ObjectKind.extendedType : ObjectKind → ExtendedType
  | .table => .table
  | .luaFunction => .luaFunction
  | .externalFunction => .externalFunction
  | .externalClosure => .externalClosure
  | .userData => .userData
  | .thread => .thread

def ObjectKind.name : ObjectKind → String
  | .table => "table"
  | .luaFunction => "lua_function"
  | .externalFunction => "c_function"
  | .externalClosure => "c_closure"
  | .userData => "user_data"
  | .thread => "thread"

namespace Payload

def flags : Payload → DisplayFlags
  | .error _ => .readOnly
  | .nil | .lightUserData _ | .number _ _ | .string _ _ _ => .builtin ||| .readOnly
  | .boolean false => .boolean ||| .builtin ||| .readOnly
  | .boolean true => .boolean ||| .builtin ||| .readOnly ||| .booleanTrue
  | .object _ _ => .none

def extendedType : Payload → ExtendedType
  | .error _ | .nil => .nil
  | .boolean _ => .boolean
  | .lightUserData _ => .lightUserData
  | .number _ .integer => .integerNumber
  | .number _ .float => .floatNumber
  | .string _ _ .short => .shortString
  | .string _ _ .long => .longString
  | .object kind _ => kind.extendedType

def typeName : Payload → String
  | .error _ => "error"
  | .nil => "nil"
  | .boolean _ => "bool"
  | .lightUserData _ => "light_user_data"
  | .number _ .integer => "int"
  | .number _ .float => "double"
  | .string _ _ .short => "short_string"
  | .string _ _ .long => "long_string"
  | .object kind _ => kind.name

def isError : Payload → Bool
  | .error _ => true
  | _ => false

def target? : Payload → Option Address
  | .string _ target _ | .object _ target => some target
  | _ => none

def sameData : Payload → Payload → Bool
  | .number x k, .number y l => x.sameNumber y && k == l
  | p, q => p == q

/--
Equality as the program sees it: numbers whatever their kind, strings by their text and objects by
their identity. What is no number equals itself, so that every value does.
-/
def luaEqual : Payload → Payload → Bool
  | .error m, .error n => m == n
  | .nil, .nil => true
  | .boolean a, .boolean b => a == b
  | .lightUserData p, .lightUserData q => p == q
  | .number x _, .number y _ => x.sameNumber y || (x.isNaN && y.isNaN)
  | .string s _ _, .string t _ _ => s == t
  | .object k p, .object l q => k == l && p == q
  | _, _ => false

end Payload

structure Value where
  payload : Payload
  cell : Address
  deriving DecidableEq, Repr

namespace Value

def ofPayload (p : Payload) : Value := ⟨p, .null⟩

def error (message : String) : Value := ofPayload (.error message)

def nil : Value := ofPayload .nil

def boolean (b : Bool) : Value := ofPayload (.boolean b)

def lightUserData (pointer : Address) : Value := ofPayload (.lightUserData pointer)

def number (value : Double) (kind : NumberKind) : Value := ofPayload (.number value kind)

def integer (n : Int64) : Value := number (Double.ofInt n.toInt) .integer

def float (value : Double) : Value := number value .float

def remoteString (text : String) (target : Address) (kind : StringKind) : Value :=
  ofPayload (.string text target kind)

def string (text : String) : Value := remoteString text .null .short

def object (kind : ObjectKind) (target : Address) : Value := ofPayload (.object kind target)

def isError (v : Value) : Bool := v.payload.isError

def flags (v : Value) : DisplayFlags := v.payload.flags

def extendedType (v : Value) : ExtendedType := v.payload.extendedType

def baseType (v : Value) : BaseType := v.extendedType.base

def typeName (v : Value) : String := v.payload.typeName

def target? (v : Value) : Option Address := v.payload.target?

def withCell (v : Value) (cell : Address) : Value :=
  if v.isError then v else { v with cell := cell }

@[simp]
theorem payload_withCell (v : Value) (cell : Address) :
    (v.withCell cell).payload = v.payload := by
  unfold withCell
  split <;> rfl

def luaEqual (v w : Value) : Bool := v.payload.luaEqual w.payload

def sameData (v w : Value) : Bool :=
  v.payload.sameData w.payload && v.flags == w.flags && v.cell == w.cell

end Value

end LuaScope
