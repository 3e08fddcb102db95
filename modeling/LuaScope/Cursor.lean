import LuaScope.Peek

/-!
This module contains the walk over the fields of a structure. Every field lies at the next multiple
of its size, so a structure is described by the types of its fields in order. A field that cannot be
read is passed over like any other.
-/

namespace LuaScope

structure Cursor where
  target : Target
  position : Address
  deriving DecidableEq, Repr

namespace Cursor

def field (c : Cursor) (size : Nat) : Address :=
  c.position.alignUp (UInt64.ofNat size)

def past (c : Cursor) (size : Nat) : Cursor :=
  { c with position := c.field size + size }

def skip (c : Cursor) (p : Primitive) : Cursor :=
  c.past p.size

def skipPointer (c : Cursor) : Cursor :=
  c.past c.target.width.bytes

def align (c : Cursor) (alignment : UInt64) : Cursor :=
  { c with position := c.position.alignUp alignment }

def skipBytes (c : Cursor) (count : Nat) : Cursor :=
  { c with position := c.position + count }

def read (c : Cursor) (p : Primitive) : Peek (Option p.Carrier) :=
  Peek.scalar c.target.order p (c.field p.size)

def readPointer (c : Cursor) : Peek (Option Address) :=
  Peek.pointer c.target (c.field c.target.width.bytes)

@[simp]
theorem target_past (c : Cursor) (size : Nat) : (c.past size).target = c.target := rfl

@[simp]
theorem reads_read (m : Memory) (c : Cursor) (p : Primitive) :
    (c.read p).reads m = [(c.field p.size, p.size)] := by
  simp [read]

@[simp]
theorem reads_readPointer (m : Memory) (c : Cursor) :
    c.readPointer.reads m = [(c.field c.target.width.bytes, c.target.width.bytes)] := by
  simp [readPointer]

inductive Step where
  | read (p : Primitive)
  | skip (p : Primitive)
  | readPointer
  | skipPointer
  | readSize
  | alignTo (alignment : UInt64)
  | skipBytes (count : Nat)
  deriving DecidableEq, Repr

inductive Reply where
  | nothing
  | scalar (p : Primitive) (value : Option p.Carrier)
  | pointer (value : Option Address)
  | size (value : Option Nat)

def after (c : Cursor) : Step → Cursor
  | .read p | .skip p => c.skip p
  | .readPointer | .skipPointer | .readSize => c.skipPointer
  | .alignTo alignment => c.align alignment
  | .skipBytes count => c.skipBytes count

def reply (c : Cursor) : Step → Peek Reply
  | .read p => do return .scalar p (← c.read p)
  | .readPointer => do return .pointer (← c.readPointer)
  | .readSize => do return .size ((← c.readPointer).map Address.toNat)
  | .skip _ | .skipPointer | .alignTo _ | .skipBytes _ => return .nothing

def Step.alignment (t : Target) : Step → UInt64
  | .read p | .skip p => UInt64.ofNat p.size
  | .readPointer | .skipPointer | .readSize => UInt64.ofNat t.width.bytes
  | .alignTo alignment => alignment
  | .skipBytes _ => 0

def verify (t : Target) (step : Step) : Peek Unit :=
  Peek.verify (.alignment (step.alignment t))

def Step.check : Step → Except Misuse Unit
  | .alignTo alignment => if Address.isAlignment alignment then .ok () else .error .alignment
  | _ => .ok ()

end Cursor

/--
A walk over the fields of a structure. It may end at a field that it cannot do without, and the
cursor stands behind that field then.
-/
abbrev Walk (α : Type) := OptionT (StateT Cursor Peek) α

namespace Walk

def position : Walk Address := do
  return (← get).position

def target : Walk Target := do
  return (← get).target

def verify (step : Cursor.Step) : Walk Unit := do
  let c ← get
  liftM (Cursor.verify c.target step)

def skip (p : Primitive) : Walk Unit := do
  verify (.skip p)
  modify (·.skip p)

def skipPointer : Walk Unit := do
  verify .skipPointer
  modify Cursor.skipPointer

def skipPointers (count : Nat) : Walk Unit := do
  verify .skipPointer
  modify fun c => count.repeat Cursor.skipPointer c

def align (alignment : UInt64) : Walk Unit := do
  verify (.alignTo alignment)
  modify (·.align alignment)

def attempt (p : Primitive) : Walk (Option p.Carrier) := do
  verify (.read p)
  let c ← get
  let value ← liftM (c.read p)
  set (c.skip p)
  return value

def require {α : Type} (value : Option α) : Walk α :=
  OptionT.mk (pure value)

def read (p : Primitive) : Walk p.Carrier := do
  require (← attempt p)

def readPointer : Walk Address := do
  verify .readPointer
  let c ← get
  let value ← liftM c.readPointer
  set c.skipPointer
  require value

def readSize : Walk Nat := do
  return (← readPointer).toNat

def start {α : Type} (w : Walk α) (target : Target) (address : Address) : Peek (Option α) := do
  let (value, _) ← w.run.run ⟨target, address⟩
  return value

end Walk

end LuaScope
