import LuaScope.LuaFunction
import LuaScope.Table

/-!
This module contains what is known about the functions of the programs in a target: for each state
of the runtime its sources and the functions from them, the names of functions, and the scripts that
did not come from a file.
-/

namespace LuaScope

class Registrable (φ : Type) where
  /-- Null as long as the function was not read. -/
  address : φ → Address
  source? : φ → Option String
  sourceAddress : φ → Address
  /-- Zero as long as the lines of the definition were not determined. -/
  startLine : φ → Nat
  readSource : Target → φ → Peek φ
  readLocals : Target → φ → Peek φ

instance : Registrable LuaFunction where
  address := LuaFunction.address
  source? f := f.source.value?
  sourceAddress := LuaFunction.sourceAddress
  startLine := LuaFunction.startLine
  readSource := LuaFunction.readSource
  readLocals := LuaFunction.readLocals

structure SourceSymbols (φ : Type) where
  name : String
  /-- The object that holds the name. -/
  address : Address
  resolved : Option String
  functions : Table Address φ

/--
A chunk that was loaded from a text and not from a file.
-/
structure Script where
  name : String
  content : String
  resolved : Option String
  deriving DecidableEq, Repr

structure StateSymbols (φ : Type) where
  sources : Table String (SourceSymbols φ)
  names : Table Address String
  scripts : Table String Script

namespace StateSymbols

variable {φ : Type}

def empty : StateSymbols φ := ⟨.empty, .empty, .empty⟩

def source? (s : StateSymbols φ) (name : String) : Option (SourceSymbols φ) :=
  s.sources.find? name

def function? (s : StateSymbols φ) (address : Address) : Option φ :=
  s.sources.values.findSome? fun source => source.functions.find? address

def resolve (s : StateSymbols φ) (name file : String) : StateSymbols φ × Bool :=
  match s.source? name with
  | none => (s, false)
  | some source =>
    ({ s with sources := s.sources.insert name { source with resolved := some file } }, true)

def addName (s : StateSymbols φ) (address : Address) (name : String) : StateSymbols φ :=
  { s with names := s.names.insert address name }

def name? (s : StateSymbols φ) (address : Address) : Option String :=
  s.names.find? address

def addScript (s : StateSymbols φ) (name content : String) : StateSymbols φ :=
  { s with scripts := s.scripts.insert name ⟨name, content, none⟩ }

def script? (s : StateSymbols φ) (name : String) : Option Script :=
  s.scripts.find? name

variable [Registrable φ]

def insert (s : StateSymbols φ) (source : SourceSymbols φ) (f : φ) : StateSymbols φ :=
  let functions := source.functions.insert (Registrable.address f) f
  { s with sources := s.sources.insert source.name { source with functions := functions } }

def sourceFor (s : StateSymbols φ) (name : String) (f : φ) : SourceSymbols φ :=
  (s.source? name).getD ⟨name, Registrable.sourceAddress f, none, .empty⟩

def openSource (s : StateSymbols φ) (name : String) (f : φ) : StateSymbols φ :=
  if (s.source? name).isSome then s
  else { s with sources := s.sources.insert name (s.sourceFor name f) }

theorem openSource_of_contains {s : StateSymbols φ} {name : String} {f : φ} {a : Address}
    (h : (s.sourceFor name f).functions.contains a) : s.openSource name f = s := by
  unfold openSource
  split
  . rfl
  . next hnone =>
    rw [Option.not_isSome_iff_eq_none] at hnone
    simp [sourceFor, hnone, Table.contains] at h

theorem insert_openSource (s : StateSymbols φ) (name : String) (f g : φ) :
    (s.openSource name f).insert (s.sourceFor name f) g = s.insert (s.sourceFor name f) g := by
  unfold openSource
  split
  . rfl
  . next hnone =>
    rw [Option.not_isSome_iff_eq_none] at hnone
    simp [insert, sourceFor, hnone, Table.insert_insert]

/--
Registers a function under its source, and tells whether it was added. A function without a source
is not, and neither is one whose address its source holds already. A function that was never read
cannot be asked for its source.
-/
def register (target : Target) (s : StateSymbols φ) (f : φ) :
    Peek (Except Misuse (StateSymbols φ × Bool)) := do
  if (Registrable.address f).isNull then
    Peek.report .unreadFunction
    return .error .unreadFunction
  let f ← Registrable.readSource target f
  match Registrable.source? f with
  | none => return .ok (s, false)
  | some name =>
    let source := s.sourceFor name f
    if (s.source? name).isNone then Peek.report (.sourceAdded name)
    -- the source is there from here on, even if the function is not added to it
    let s := s.openSource name f
    if source.functions.contains (Registrable.address f) then return .ok (s, false)
    let f ← if Registrable.startLine f = 0 then Registrable.readLocals target f else pure f
    Peek.report (.functionRegistered (Registrable.address f) name)
    return .ok (s.insert source f, true)

end StateSymbols

structure SymbolStore (φ : Type) where
  states : Table Address (StateSymbols φ)

namespace SymbolStore

variable {φ : Type}

def empty : SymbolStore φ := ⟨.empty⟩

def state? (s : SymbolStore φ) (state : Address) : Option (StateSymbols φ) :=
  s.states.find? state

def symbols (s : SymbolStore φ) (state : Address) : StateSymbols φ :=
  (s.state? state).getD .empty

def put (s : SymbolStore φ) (state : Address) (symbols : StateSymbols φ) : SymbolStore φ :=
  ⟨s.states.insert state symbols⟩

def track (s : SymbolStore φ) (state : Address) : Peek (SymbolStore φ) := do
  if s.states.contains state then return s
  Peek.report (.stateTracked state)
  return s.put state .empty

def drop (s : SymbolStore φ) (state : Address) : Peek (SymbolStore φ) := do
  if !s.states.contains state then return s
  Peek.report (.stateDropped state)
  return ⟨s.states.erase state⟩

def size (s : SymbolStore φ) : Nat := s.states.size

end SymbolStore

end LuaScope
