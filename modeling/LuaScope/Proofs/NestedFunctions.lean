import Mathlib.Order.Bounds.Defs
import LuaScope.Proofs.PrototypeLayout

/-!
This module contains the proof of which functions are found inside another one, and which lines its
definition takes up. The functions are the ones that the slots of its array lead to. A slot that
leads to none is passed over, and the ones behind it stay where they are.
-/

namespace LuaScope

namespace LuaFunction

theorem isGreatest_lastLine {locals : Array LocalFunction} (h : locals ≠ #[]) :
    IsGreatest {n | ∃ l ∈ locals, l.lastLineDefined = n} (lastLine locals) := by
  unfold lastLine
  cases hmax : (locals.toList.map LocalFunction.lastLineDefined).max? with
  | none =>
    rw [List.max?_eq_none_iff, List.map_eq_nil_iff, Array.toList_eq_nil_iff] at hmax
    exact absurd hmax h
  | some n =>
    rw [List.max?_eq_some_iff] at hmax
    rcases hmax with ⟨hmem, hle⟩
    constructor
    . rw [List.mem_map] at hmem
      simpa using hmem
    . rintro _ ⟨l, hl, rfl⟩
      apply hle
      exact List.mem_map_of_mem (Array.mem_toList_iff.mpr hl)

variable (m : Memory) (f : LuaFunction)

def localAt? (version : Version) (slot : Address) : Option LocalFunction :=
  match m.pointer? m.target slot with
  | none => none
  | some proto =>
    if proto.isNull then none
    else
      match (read m.target version proto).result m with
      | .error _ => none
      | .ok nested => some ⟨proto, nested.lineDefined, nested.lastLineDefined⟩

theorem result_readLocal (version : Version) (slot : Address) :
    (readLocal m.target version slot).result m = localAt? m version slot := by
  unfold readLocal localAt?
  rw [Peek.result_bind, Peek.result_pointer_eq]
  cases m.pointer? m.target slot with
  | none => rfl
  | some proto =>
    dsimp only
    split
    . rfl
    . next hnull =>
      rw [Address.isNull_iff] at hnull
      rw [result_read hnull, Peek.result_bind]
      cases (Prototype.read m.target version proto).result m <;> rfl

def localsFrom (version : Version) (count : Nat) (slot : Address) : List LocalFunction :=
  (List.range count).filterMap fun i => localAt? m version (slot + i * m.target.width.bytes)

theorem localsFrom_succ (version : Version) (count : Nat) (slot : Address) :
    localsFrom m version (count + 1) slot =
      (localAt? m version slot).toList ++
        localsFrom m version count (slot + m.target.width.bytes) := by
  have hnext (i : Nat) : slot + (i + 1) * m.target.width.bytes =
      slot + m.target.width.bytes + i * m.target.width.bytes := by
    rw [Address.add_add, Nat.add_mul, Nat.one_mul, Nat.add_comm]
  unfold localsFrom
  rw [List.range_succ_eq_map, List.filterMap_cons, List.filterMap_map]
  simp only [Nat.zero_mul, Address.add_zero, Function.comp_def, Nat.succ_eq_add_one, hnext]
  cases localAt? m version slot <;> rfl

theorem toList_readSlots (count : Nat) (slot : Address) (out : Array LocalFunction) :
    ((readSlots m.target f count slot out).result m).toList =
      out.toList ++ localsFrom m f.version count slot := by
  -- the loop goes on at the next slot, whether it found a function in this one or not
  induction count generalizing slot out with
  | zero => exact (List.append_nil _).symm
  | succ count ih =>
    rw [readSlots, Peek.result_bind, result_readLocal, localsFrom_succ]
    cases localAt? m f.version slot with
    | none =>
      simp only [Peek.result_bind]
      rw [ih]
      rfl
    | some nested =>
      rw [ih, Array.toList_push, List.append_assoc]
      rfl

def inside : List LocalFunction :=
  if f.header.nested = .null then []
  else localsFrom m f.version (min f.header.nestedSize.toNat maxLocalFunctions) f.header.nested

theorem result_readLocals :
    (readLocals m.target f).result m = { f with
      startLine := if f.isMainChunk then 1 else f.lineDefined
      endLine := if f.isMainChunk then lastLine (inside m f).toArray else f.lastLineDefined
      locals := (inside m f).toArray } := by
  unfold readLocals inside
  dsimp only
  split
  . next hnull =>
    rw [if_pos ((Address.isNull_iff _).mp hnull)]
    rfl
  . next hnull =>
    have hslots := toList_readSlots m f (min f.header.nestedSize.toNat maxLocalFunctions)
      f.header.nested #[]
    rw [List.nil_append] at hslots
    rw [if_neg (mt (Address.isNull_iff _).mpr hnull), Peek.result_bind, ← hslots]
    rfl

/--
A lookup of the functions inside a function finds the ones that its slots lead to, and no others.
The lines of the definition are its own, apart from a main chunk, which begins at the first line and
ends with the last function inside. All else stays, and looking once more changes nothing.
-/
theorem readLocals_by_slots (m : Memory) (f : LuaFunction) :
    let g := (readLocals m.target f).result m
    let count := min f.header.nestedSize.toNat 4096
    g.locals.toList =
      (if f.header.nested = .null then []
      else (List.range count).filterMap fun i =>
        localAt? m f.version (f.header.nested + i * m.target.width.bytes)) ∧
    (if f.header.lineDefined = 0 then
      g.startLine = 1 ∧
        (g.locals = #[] ∧ g.endLine = 1 ∨
          IsGreatest {n | ∃ l ∈ g.locals, l.lastLineDefined = n} g.endLine)
    else g.startLine = f.lineDefined ∧ g.endLine = f.lastLineDefined) ∧
    (g.version = f.version ∧ g.address = f.address ∧ g.header = f.header ∧ g.source = f.source ∧
      g.sourceAddress = f.sourceAddress) ∧
    (readLocals m.target g).result m = g := by
  intro g count
  have hg : g = _ := result_readLocals m f
  have hmain : f.isMainChunk = decide (f.header.lineDefined = 0) := rfl
  refine ⟨?_, ?_, ?_, ?_⟩
  . rw [hg]
    rfl
  . rw [hg]
    by_cases hline : f.header.lineDefined = 0
    . simp only [hmain, hline, decide_true, if_true, true_and]
      by_cases hnone : (inside m f).toArray = #[]
      . rw [hnone]
        exact Or.inl ⟨rfl, rfl⟩
      . exact Or.inr (isGreatest_lastLine hnone)
    . simp [hmain, hline]
  . rw [hg]
    exact ⟨rfl, rfl, rfl, rfl, rfl⟩
  . -- the second lookup depends on the prototype alone, which is the same
    rw [result_readLocals, hg]
    rfl

end LuaFunction

end LuaScope
