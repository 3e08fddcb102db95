import LuaScope.Proofs.SourceLookup

/-!
This module contains the proof of when the lines of a definition are known. Line zero stands for a
definition that was not looked into yet, so that what is inside a function is looked up only once by
registering it. The lines are taken from the target as they are, in order or not.
-/

namespace LuaScope

namespace LuaFunction

structure HasLines (f : LuaFunction) : Prop where
  start : f.startLine = if f.isMainChunk then 1 else f.lineDefined
  stop : f.endLine = if f.isMainChunk then lastLine f.locals else f.lastLineDefined

theorem hasLines_readLocals (m : Memory) (f : LuaFunction) :
    ((readLocals m.target f).result m).HasLines := by
  rw [result_readLocals]
  exact ⟨rfl, rfl⟩

theorem HasLines.located {f : LuaFunction} (h : f.HasLines) (m : Memory) :
    (f.located m).HasLines := by
  rcases exists_located m f with ⟨source, address, hlocated⟩
  rw [hlocated]
  exact ⟨h.start, h.stop⟩

theorem startLine_located (m : Memory) (f : LuaFunction) :
    (f.located m).startLine = f.startLine := by
  rcases exists_located m f with ⟨source, address, hlocated⟩
  rw [hlocated]

def Lookup.isLocals : Lookup → Bool
  | .source _ => false
  | .locals _ => true

theorem hasLines_after (f : LuaFunction) {ls : List Lookup} (h : ∃ l ∈ ls, l.isLocals) :
    (f.after ls).HasLines := by
  induction ls using List.reverseRecOn with
  | nil => simp at h
  | append_singleton ls l ih =>
    rw [after_append]
    cases l with
    | locals m => exact hasLines_readLocals m _
    | source m =>
      apply HasLines.located
      apply ih
      simpa [Lookup.isLocals] using h

theorem startLine_after (f : LuaFunction) {ls : List Lookup} (h : ¬∃ l ∈ ls, l.isLocals) :
    (f.after ls).startLine = f.startLine := by
  induction ls using List.reverseRecOn with
  | nil => rfl
  | append_singleton ls l ih =>
    rw [after_append]
    cases l with
    | locals m => simp [Lookup.isLocals] at h
    | source m =>
      rw [Lookup.apply, startLine_located]
      apply ih
      simpa [Lookup.isLocals] using h

theorem HasLines.one_le_startLine {f : LuaFunction} (h : f.HasLines)
    (hline : 0 ≤ f.header.lineDefined) : 1 ≤ f.startLine := by
  rw [h.start, isMainChunk, lineDefined, Prototype.line]
  split
  . exact Nat.le_refl 1
  . next hmain =>
    rw [decide_eq_true_eq] at hmain
    omega

theorem one_le_lastLine_iff {locals : Array LocalFunction} :
    1 ≤ lastLine locals ↔ locals = #[] ∨ ∃ l ∈ locals, 1 ≤ l.lastLineDefined := by
  by_cases hnone : locals = #[]
  . simp [hnone, lastLine]
  . have hgreatest := isGreatest_lastLine hnone
    constructor
    . intro h
      rcases hgreatest.1 with ⟨l, hl, hlast⟩
      exact Or.inr ⟨l, hl, hlast ▸ h⟩
    . intro h
      rcases h.resolve_left hnone with ⟨l, hl, hlast⟩
      exact Nat.le_trans hlast (hgreatest.2 ⟨l, hl, rfl⟩)

theorem HasLines.startLine_le_iff {f : LuaFunction} (h : f.HasLines)
    (hline : 0 ≤ f.header.lineDefined) :
    f.startLine ≤ f.endLine ↔
      if f.header.lineDefined = 0 then f.locals = #[] ∨ ∃ l ∈ f.locals, 1 ≤ l.lastLineDefined
      else f.header.lineDefined ≤ f.header.lastLineDefined := by
  have hmain : f.isMainChunk = decide (f.header.lineDefined = 0) := rfl
  rw [h.start, h.stop, hmain]
  by_cases hzero : f.header.lineDefined = 0
  . simp only [hzero, decide_true, if_true]
    exact one_le_lastLine_iff
  . simp only [hzero, decide_false, Bool.false_eq_true, if_false, lineDefined, lastLineDefined,
      Prototype.line]
    omega

theorem reads_register {m : Memory} {f : LuaFunction} (s : StateSymbols LuaFunction)
    (haddress : f.address.isNull = false) (hlines : (f.located m).startLine ≠ 0) :
    (s.register m.target f).reads m = (readSource m.target f).reads m := by
  have hlocated : (Registrable.readSource m.target f).result m = f.located m := rfl
  have hline : Registrable.startLine (f.located m) = (f.located m).startLine := rfl
  have haddress' : Registrable.address f = f.address := rfl
  unfold StateSymbols.register
  rw [haddress', haddress]
  simp only [Bool.false_eq_true, if_false, Peek.reads_bind, hlocated, hline, hlines]
  apply (List.append_right_eq_self).mpr
  cases Registrable.source? (f.located m) with
  | none => rfl
  | some name =>
    dsimp only
    split <;> split <;> rfl

theorem exists_completed_eq (m : Memory) {f : LuaFunction} (ls : List Lookup)
    (hzero : f.startLine = 0) :
    ∃ ls', (f.after ls).completed m = f.after ls' ∧ ∃ l ∈ ls', l.isLocals := by
  have hlocated : (f.after ls).located m = f.after (ls ++ [.source m]) :=
    (after_append f ls (.source m)).symm
  unfold completed
  rw [hlocated]
  -- the line is other than zero only if what is inside was looked up before
  split
  . refine ⟨ls ++ [.source m] ++ [.locals m], ?_, .locals m, by simp, rfl⟩
    exact (after_append f (ls ++ [.source m]) (.locals m)).symm
  . next hne =>
    refine ⟨_, rfl, ?_⟩
    by_contra hnone
    rw [startLine_after f hnone] at hne
    exact hne hzero

/--
The first line of a definition that does not begin before line zero is zero as long as nothing inside
was looked up. The lines are in order as far as they are in the target. Registering the function
looks inside once at most: the function is kept with its lines known, and one with known lines is not
looked into.
-/
theorem startLine_eq_zero_iff {m₀ : Memory} {version : Version} {a : Address} {f : LuaFunction}
    (hf : (read m₀.target version a).result m₀ = .ok f) (hline : 0 ≤ f.header.lineDefined)
    (ls : List Lookup) :
    let g := f.after ls
    (g.startLine = 0 ↔ ¬∃ l ∈ ls, l.isLocals) ∧
    ((∃ l ∈ ls, l.isLocals) →
      1 ≤ g.startLine ∧
      (g.startLine ≤ g.endLine ↔
        if f.header.lineDefined = 0 then g.locals = #[] ∨ ∃ l ∈ g.locals, 1 ≤ l.lastLineDefined
        else f.header.lineDefined ≤ f.header.lastLineDefined) ∧
      ∀ (s : StateSymbols LuaFunction) (m : Memory),
        (s.register m.target g).reads m = (readSource m.target g).reads m ∧
        g.completed m = g.located m) ∧
    ∀ m, ∃ ls', g.completed m = f.after ls' ∧ ∃ l ∈ ls', l.isLocals := by
  intro g
  have hzero : f.startLine = 0 := (unread_of_read m₀ f hf).2.2
  have hkept := precedes_after f ls
  have hstart (h : ∃ l ∈ ls, l.isLocals) : 1 ≤ g.startLine := by
    apply (hasLines_after f h).one_le_startLine
    rw [hkept.header]
    exact hline
  refine ⟨?_, ?_, ?_⟩
  . constructor
    . intro hg h
      have := hstart h
      omega
    . intro h
      rw [← hzero]
      exact startLine_after f h
  . intro h
    have hlocated (m : Memory) : (g.located m).startLine ≠ 0 := by
      rw [startLine_located]
      exact Nat.ne_of_gt (hstart h)
    refine ⟨hstart h, ?_, ?_⟩
    . rw [← hkept.header]
      apply (hasLines_after f h).startLine_le_iff
      rw [hkept.header]
      exact hline
    . intro s m
      constructor
      . apply reads_register s _ (hlocated m)
        rw [hkept.address]
        exact isNull_of_read m₀ f hf
      . rw [completed, if_neg (hlocated m)]
  . intro m
    exact exists_completed_eq m ls hzero

theorem startLine_of_chunk :
    let image : Snapshot := ⟨⟨.four, .little⟩, [⟨⟨0x1000⟩, .replicate 16 0 ++ #[0x50, 0x10] ++
      .replicate 34 0 ++ #[1] ++ .replicate 27 0 ++ #[0x54, 0x10] ++ .replicate 62 0 ++
      #[2, 0, 0, 0, 5] ++ .replicate 11 0⟩]⟩
    let m := image.memory
    ∃ f, (read m.target .v51 ⟨0x1000⟩).result m = .ok f ∧ f.header.lineDefined = 0 ∧
      (f.after [.locals m]).locals = #[⟨⟨0x1054⟩, 2, 5⟩] ∧
      1 ≤ (f.after [.locals m]).startLine ∧
      (f.after [.locals m]).startLine ≤ (f.after [.locals m]).endLine ∧
      (f.after [.locals m]).completed m = (f.after [.locals m]).located m := by
  intro image m
  let f : LuaFunction := ⟨.v51, ⟨0x1000⟩, ⟨0, false, 0, 0, 1, 0, 0, ⟨0x1050⟩, .null⟩, .unread, .null,
    0, 0, #[]⟩
  have hf : (read m.target .v51 ⟨0x1000⟩).result m = .ok f := by decide +kernel
  have hlocals : (f.after [.locals m]).locals = #[⟨⟨0x1054⟩, 2, 5⟩] := by decide +kernel
  rcases startLine_eq_zero_iff hf (by decide) [.locals m] with ⟨-, hlines, -⟩
  rcases hlines ⟨.locals m, by simp, rfl⟩ with ⟨hstart, horder, hregister⟩
  refine ⟨f, hf, rfl, hlocals, hstart, ?_, (hregister .empty m).2⟩
  rw [horder, hlocals]
  exact Or.inr ⟨_, Array.mem_singleton.mpr rfl, by decide⟩

theorem lines_out_of_order :
    let memory (lines : List UInt8) : Memory := Snapshot.memory
      ⟨⟨.four, .little⟩, [⟨⟨0x1000⟩, (.replicate 60 0 ++ lines ++ .replicate 8 0).toArray⟩]⟩
    let m := memory [10, 0, 0, 0, 3, 0, 0, 0]
    let n := memory [0xFF, 0xFF, 0xFF, 0xFF, 3, 0, 0, 0]
    ∃ f g, (read m.target .v51 ⟨0x1000⟩).result m = .ok f ∧
      (read n.target .v51 ⟨0x1000⟩).result n = .ok g ∧
      ((readLocals m.target f).result m).startLine = 10 ∧
      ((readLocals m.target f).result m).endLine = 3 ∧
      ((readLocals n.target g).result n).startLine = 0 := by
  intro memory m n
  refine ⟨⟨.v51, ⟨0x1000⟩, ⟨0, false, 0, 0, 0, 10, 3, .null, .null⟩, .unread, .null, 0, 0, #[]⟩,
    ⟨.v51, ⟨0x1000⟩, ⟨0, false, 0, 0, 0, -1, 3, .null, .null⟩, .unread, .null, 0, 0, #[]⟩, ?_⟩
  decide +kernel

end LuaFunction

end LuaScope
