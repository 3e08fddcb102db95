import LuaScope.Closure
import LuaScope.Failure
import LuaScope.Fetched
import LuaScope.Prototype

/-!
This module contains the functions of a program: a prototype that was read, and what is looked up
about it later, its source and the functions defined inside it.
-/

namespace LuaScope

def maxLocalFunctions : Nat := 4096

def maxSourceLength : Nat := 4096

structure LocalFunction where
  address : Address
  lineDefined : Nat
  lastLineDefined : Nat
  deriving DecidableEq, Repr

structure LuaFunction where
  version : Version
  address : Address
  header : Prototype
  source : Fetched String
  sourceAddress : Address
  /-- The lines of the definition, or zero as long as they were not determined. -/
  startLine : Nat
  endLine : Nat
  locals : Array LocalFunction
  deriving DecidableEq, Repr

namespace LuaFunction

def read (target : Target) (version : Version) (address : Address) :
    Peek (Except Failure LuaFunction) := do
  if address.isNull then return .error (.invalidArgument "null function prototype")
  match ← Prototype.read target version address with
  | none => return .error (.unreadable "function prototype" address)
  | some header =>
    Peek.report (.prototypeRead address header.lineDefined header.nestedSize)
    return .ok {
      version, address, header
      source := .unread
      sourceAddress := .null
      startLine := 0
      endLine := 0
      locals := #[] }

def ofClosure (target : Target) (version : Version) (closure : Address) :
    Peek (Except Failure LuaFunction) := do
  match ← Closure.prototype target version closure with
  | none => return .error (.unreadable "Lua closure" closure)
  | some proto => read target version proto

def lineDefined (f : LuaFunction) : Nat := Prototype.line f.header.lineDefined

def lastLineDefined (f : LuaFunction) : Nat := Prototype.line f.header.lastLineDefined

def isMainChunk (f : LuaFunction) : Bool := f.header.lineDefined = 0

def instructionCount (f : LuaFunction) : Nat := f.header.codeSize.toNat

def displaySource (source : String) : String :=
  match source.toList with
  | '@' :: cs | '=' :: cs => String.ofList cs
  | _ => source

/--
Looks the source up. One that was found or is known to be missing is not looked up again.
-/
def readSource (target : Target) (f : LuaFunction) : Peek LuaFunction := do
  match f.source with
  | .found _ | .missing => return f
  | .unread | .failed =>
    let pointer := f.header.source
    if pointer.isNull then return { f with source := .missing }
    match ← sourceText target f.version pointer with
    | some name => return { f with source := .found name, sourceAddress := pointer }
    | none =>
      Peek.report (.sourceUnreadable f.address pointer)
      return { f with source := .failed }
where
  sourceText (target : Target) (version : Version) (pointer : Address) : Peek (Option String) := do
    match ← StringHeader.read target version pointer none with
    | none => return none
    | some header => return (← header.text maxSourceLength).map Prod.fst

def readLocal (target : Target) (version : Version) (slot : Address) :
    Peek (Option LocalFunction) := do
  match ← Peek.pointer target slot with
  | none => return none
  | some proto =>
    if proto.isNull then return none
    match ← Prototype.read target version proto with
    | none => return none
    | some header =>
      return some {
        address := proto
        lineDefined := Prototype.line header.lineDefined
        lastLineDefined := Prototype.line header.lastLineDefined }

def readSlots (target : Target) (f : LuaFunction) :
    Nat → Address → Array LocalFunction → Peek (Array LocalFunction)
  | 0, _, out => return out
  | count + 1, slot, out => do
    match ← readLocal target f.version slot with
    | some nested => readSlots target f count (slot + target.width.bytes) (out.push nested)
    | none =>
      Peek.report (.nestedSkipped f.address slot)
      readSlots target f count (slot + target.width.bytes) out

def lastLine (locals : Array LocalFunction) : Nat :=
  (locals.toList.map LocalFunction.lastLineDefined).max?.getD 1

def readLocals (target : Target) (f : LuaFunction) : Peek LuaFunction := do
  let count := min f.header.nestedSize.toNat maxLocalFunctions
  let locals ←
    if f.header.nested.isNull then pure #[] else readSlots target f count f.header.nested #[]
  let startLine := if f.isMainChunk then 1 else f.lineDefined
  let endLine := if f.isMainChunk then lastLine locals else f.lastLineDefined
  Peek.report (.localsDiscovered f.address locals.size startLine endLine)
  return { f with startLine, endLine, locals }

end LuaFunction

end LuaScope
