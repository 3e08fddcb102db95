import LuaScope.Failure
import LuaScope.Memory.Snapshot
import LuaScope.Peek

/-!
This module contains what the program needs of the machine that it runs on, as operations of some
monad, and the access to the memory of a target that comes of it.
-/

namespace LuaScope

structure LiveProcess (m : Type → Type) where
  pid : Nat
  target : Target
  read : Address → Nat → m (Option (List UInt8))

structure Host (m : Type → Type) where
  lookupVariable : String → m (Option String)
  isDirectory : String → m Bool
  createDirectories : String → m (Except FileFault Unit)
  contentsOf : String → m (Except FileFault (Array UInt8))
  touchFile : String → m Unit
  appendLine : String → String → m Unit
  /-- The date, year first. -/
  today : m String
  now : m String
  attach : Nat → m (Except Failure (LiveProcess m))
  out : String → m Unit
  err : String → m Unit

inductive Access (m : Type → Type) where
  | image (s : Snapshot)
  | live (p : LiveProcess m)

namespace Access

variable {m : Type → Type} [Monad m]

def target : Access m → Target
  | .image s => s.target
  | .live p => p.target

def perform {α : Type} (report : Notice → m Unit) (access : Access m) (p : Peek α) : m α := do
  match access with
  | .image s =>
    let done := p.run s.memory
    done.notices.forM report
    return done.result
  | .live process => p.perform process.read report

end Access

end LuaScope
