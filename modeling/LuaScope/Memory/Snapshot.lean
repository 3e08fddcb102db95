import LuaScope.Failure
import LuaScope.Memory

/-!
This module contains memory images made of regions. Where regions overlap, the one that was added
last holds the bytes. A range belongs to the region of its first byte and has to fit into it.
-/

namespace LuaScope

structure Region where
  base : Address
  bytes : Array UInt8
  deriving DecidableEq, Repr

namespace Region

def offset? (r : Region) (a : Address) : Option Nat :=
  let offset := a.toNat - r.base.toNat
  if r.base.toNat ≤ a.toNat ∧ offset < r.bytes.size then some offset else none

theorem offset?_eq_some_iff {r : Region} {a : Address} {i : Nat} :
    r.offset? a = some i ↔ a.toNat = r.base.toNat + i ∧ i < r.bytes.size := by
  simp only [offset?, Option.ite_none_right_eq_some, Option.some.injEq]
  omega

def window (r : Region) (offset length : Nat) : List UInt8 :=
  (r.bytes.extract offset (offset + length)).toList

theorem window_eq (r : Region) (offset length : Nat) :
    r.window offset length = (r.bytes.toList.drop offset).take length := by
  simp [window, List.extract_eq_take_drop]

def overwrite (r : Region) (offset : Nat) (data : List UInt8) : Region :=
  { r with
    bytes := r.bytes.extract 0 offset ++ data.toArray ++
      r.bytes.extract (offset + data.length) r.bytes.size }

theorem size_overwrite {r : Region} {offset : Nat} {data : List UInt8}
    (h : offset + data.length ≤ r.bytes.size) :
    (r.overwrite offset data).bytes.size = r.bytes.size := by
  simp only [overwrite, Array.size_append, Array.size_extract, List.size_toArray]
  omega

end Region

structure Snapshot where
  target : Target
  /-- The region that was added last comes first. -/
  regions : List Region
  deriving DecidableEq, Repr

namespace Snapshot

def empty (target : Target) : Snapshot := ⟨target, []⟩

def addRegion (s : Snapshot) (base : Address) (bytes : Array UInt8) : Snapshot :=
  { s with regions := ⟨base, bytes⟩ :: s.regions }

def locate (s : Snapshot) (a : Address) : Option (Region × Nat) :=
  s.regions.findSome? fun r => (r.offset? a).map fun offset => (r, offset)

/--
All bytes of a range, if they fit into one region. Reading nothing is always possible.
-/
def read (s : Snapshot) (a : Address) (length : Nat) : Option (List UInt8) :=
  if length = 0 then some []
  else
    match s.locate a with
    | none => none
    | some (r, offset) =>
      if offset + length ≤ r.bytes.size then some (r.window offset length) else none

/--
The bytes of a range up to the end of the region, but at least one, if any were asked for.
-/
def readUpTo (s : Snapshot) (a : Address) (length : Nat) : Option (List UInt8) :=
  if length = 0 then some []
  else (s.locate a).map fun (r, offset) => r.window offset length

def memory (s : Snapshot) : Memory := ⟨s.target, s.read⟩

def writeRegions (a : Address) (data : List UInt8) : List Region → Option (List Region)
  | [] => none
  | r :: rs =>
    match r.offset? a with
    | some offset =>
      if offset + data.length ≤ r.bytes.size then some (r.overwrite offset data :: rs) else none
    | none => (writeRegions a data rs).map (r :: ·)

def writeBytes (s : Snapshot) (a : Address) (data : List UInt8) : Except Failure Snapshot :=
  if data = [] then .ok s
  else
    match writeRegions a data s.regions with
    | some regions => .ok { s with regions := regions }
    | none => .error (.writeFailed a data.length)

/--
The bytes up to the first zero, to the end of the region or to `max` bytes, whichever comes first.
-/
def cString (s : Snapshot) (a : Address) (max : Nat) : Except Failure (List UInt8) :=
  match s.locate a with
  | none => .error (.readFailed a 1)
  | some (r, offset) => .ok ((r.window offset max).takeWhile (· != 0))

end Snapshot

end LuaScope
