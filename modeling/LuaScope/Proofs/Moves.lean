import LuaScope.Proofs.Fields

/-!
This module contains the proof that a cursor moves in the same way over every memory. Whether a field
can be read, and whether it is read at all, changes neither the positions behind the moves nor the
requests of the other moves.
-/

namespace LuaScope

namespace Cursor

def Step.readSize? (w : PointerWidth) : Step → Option Nat
  | .read p => some p.size
  | .readPointer | .readSize => some w.bytes
  | .skip _ | .skipPointer | .alignTo _ | .skipBytes _ => none

def Step.unread : Step → Step
  | .read p => .skip p
  | .readPointer | .readSize => .skipPointer
  | step => step

def Reply.isMissing : Reply → Bool
  | .scalar _ none | .pointer none | .size none => true
  | _ => false

theorem after_unread (c : Cursor) (step : Step) : c.after step.unread = c.after step := by
  cases step <;> rfl

theorem target_after (c : Cursor) (step : Step) : (c.after step).target = c.target := by
  cases step <;> rfl

theorem reads_reply_unread (c : Cursor) (step : Step) (m : Memory) :
    (c.reply step.unread).reads m = [] := by
  cases step <;> rfl

theorem reads_reply (c : Cursor) (step : Step) (m : Memory) :
    (c.reply step).reads m =
      (step.readSize? c.target.width).elim [] fun size => [(c.field size, size)] := by
  cases step with
  | read | readPointer | readSize => simp [reply, Step.readSize?, Peek.reads]
  | skip | skipPointer | alignTo | skipBytes => rfl

theorem result_reply_read (c : Cursor) (p : Primitive) (m : Memory) :
    (c.reply (.read p)).result m = .scalar p (m.scalar? c.target.order p (c.field p.size)) := by
  rw [reply, Peek.result_bind, read, Peek.result_scalar_eq]
  rfl

theorem result_reply_readPointer (c : Cursor) (m : Memory) :
    (c.reply .readPointer).result m =
      .pointer (m.pointer? c.target (c.field c.target.width.bytes)) := by
  rw [reply, Peek.result_bind, readPointer, Peek.result_pointer_eq]
  rfl

theorem result_reply_readSize (c : Cursor) (m : Memory) :
    (c.reply .readSize).result m =
      .size ((m.pointer? c.target (c.field c.target.width.bytes)).map Address.toNat) := by
  rw [reply, Peek.result_bind, readPointer, Peek.result_pointer_eq]
  rfl

theorem isMissing_result_reply {c : Cursor} {step : Step} {m : Memory} {size : Nat}
    (h : step.readSize? c.target.width = some size) :
    ((c.reply step).result m).isMissing ↔ ¬m.HasField (c.field size) size := by
  cases step with
  | read p =>
    injection h with h
    subst h
    rw [result_reply_read, ← Memory.scalar?_eq_none (o := c.target.order)]
    cases m.scalar? c.target.order p (c.field p.size) <;> simp [Reply.isMissing]
  | readPointer =>
    injection h with h
    subst h
    rw [result_reply_readPointer, ← Memory.pointer?_eq_none]
    cases m.pointer? c.target (c.field c.target.width.bytes) <;> simp [Reply.isMissing]
  | readSize =>
    injection h with h
    subst h
    rw [result_reply_readSize, ← Memory.pointer?_eq_none]
    cases m.pointer? c.target (c.field c.target.width.bytes) <;> simp [Reply.isMissing]
  | skip | skipPointer | alignTo | skipBytes => contradiction

def Alike (c d : Cursor) : Prop :=
  c.target.width = d.target.width ∧ c.position = d.position

theorem Alike.field {c d : Cursor} (h : c.Alike d) (size : Nat) : c.field size = d.field size := by
  unfold Cursor.field
  rw [h.2]

theorem Alike.past {c d : Cursor} (h : c.Alike d) (size : Nat) :
    (c.past size).Alike (d.past size) := by
  constructor
  . exact h.1
  . unfold Cursor.past
    rw [h.field size]

theorem Alike.after {c d : Cursor} (h : c.Alike d) (step : Step) :
    (c.after step).Alike (d.after step) := by
  cases step with
  | read p | skip p => apply h.past
  | readPointer | skipPointer | readSize =>
    unfold Cursor.after skipPointer
    rw [h.1]
    apply h.past
  | alignTo n =>
    constructor
    . exact h.1
    . exact congrArg (Address.alignUp · n) h.2
  | skipBytes count =>
    constructor
    . exact h.1
    . exact congrArg (fun a : Address => a + count) h.2

end Cursor

namespace Walk

variable {α : Type}

def tolerate (w : Walk α) : Walk (Option α) :=
  OptionT.lift w.run

theorem run_tolerate (w : Walk α) (c : Cursor) :
    w.tolerate.run.run c = w.run.run c >>= fun d => pure (some d.1, d.2) := rfl

@[simp]
theorem outcome_tolerate (w : Walk α) (m : Memory) (c : Cursor) :
    w.tolerate.outcome m c = (some (w.outcome m c).1, (w.outcome m c).2) := by
  unfold outcome
  rw [run_tolerate, Peek.result_bind]
  rfl

@[simp]
theorem requests_tolerate (w : Walk α) (m : Memory) (c : Cursor) :
    w.tolerate.requests m c = w.requests m c := by
  unfold requests
  rw [run_tolerate, Peek.reads_bind]
  apply List.append_nil

def move : Cursor.Step → Walk Cursor.Reply
  | .read p => return .scalar p (← attempt p)
  | .skip p => do
    skip p
    return .nothing
  | .readPointer => return .pointer (← readPointer.tolerate)
  | .skipPointer => do
    skipPointer
    return .nothing
  | .readSize => return .size (← readSize.tolerate)
  | .alignTo alignment => do
    align alignment
    return .nothing
  | .skipBytes count => do
    modify (·.skipBytes count)
    return .nothing

theorem outcome_move (step : Cursor.Step) (m : Memory) (c : Cursor) :
    (move step).outcome m c = (some ((c.reply step).result m), c.after step) := by
  cases step <;> simp [move, Cursor.reply, Cursor.after, Peek.result]

theorem requests_move (step : Cursor.Step) (m : Memory) (c : Cursor) :
    (move step).requests m c = (c.reply step).reads m := by
  cases step <;> simp [move, Cursor.reply, Peek.reads]

end Walk

namespace Cursor

structure Move where
  before : Address
  after : Address
  reply : Option Reply
  requests : List (Address × Nat)

/--
Makes moves one after the other, each over the memory as it is by then.
-/
def moves (ms : Nat → Memory) (c : Cursor) : List Step → List Move
  | [] => []
  | step :: steps =>
    let (reply, d) := (Walk.move step).outcome (ms 0) c
    ⟨c.position, d.position, reply, (Walk.move step).requests (ms 0) c⟩ ::
      moves (fun i => ms (i + 1)) d steps

theorem moves_cons (ms : Nat → Memory) (c : Cursor) (step : Step) (steps : List Step) :
    moves ms c (step :: steps) =
      ⟨c.position, (c.after step).position, some ((c.reply step).result (ms 0)),
        (c.reply step).reads (ms 0)⟩ :: moves (fun i => ms (i + 1)) (c.after step) steps := by
  rw [moves, Walk.outcome_move, Walk.requests_move]

def passOver (passed : Nat → Bool) (steps : List Step) : List Step :=
  steps.mapIdx fun i step => if passed i then step.unread else step

theorem map_after_moves_passOver {c d : Cursor} (h : c.Alike d) (ms ns : Nat → Memory)
    (passed : Nat → Bool) (steps : List Step) :
    (moves ns d (passOver passed steps)).map Move.after = (moves ms c steps).map Move.after := by
  induction steps generalizing c d ms ns passed with
  | nil => rfl
  | cons step steps ih =>
    have hstep : d.after (if passed 0 then step.unread else step) = d.after step := by
      split
      . apply after_unread
      . rfl
    have hrest := ih (h.after step) (fun i => ms (i + 1)) (fun i => ns (i + 1))
      (fun i => passed (i + 1))
    unfold passOver at hrest ⊢
    rw [List.mapIdx_cons, moves_cons, moves_cons, List.map_cons, List.map_cons, hstep, hrest,
      (h.after step).2]

theorem map_requests_moves_passOver {c d : Cursor} (h : c.Alike d) (ms ns : Nat → Memory)
    (passed : Nat → Bool) (steps : List Step) :
    (moves ns d (passOver passed steps)).map Move.requests =
      (moves ms c steps).mapIdx fun i move => if passed i then [] else move.requests := by
  induction steps generalizing c d ms ns passed with
  | nil => rfl
  | cons step steps ih =>
    have hreads : (d.reply (if passed 0 then step.unread else step)).reads (ns 0) =
        if passed 0 then [] else (c.reply step).reads (ms 0) := by
      split
      . apply reads_reply_unread
      . rw [reads_reply, reads_reply, h.1]
        simp only [h.field]
    have hstep : d.after (if passed 0 then step.unread else step) = d.after step := by
      split
      . apply after_unread
      . rfl
    have hrest := ih (h.after step) (fun i => ms (i + 1)) (fun i => ns (i + 1))
      (fun i => passed (i + 1))
    unfold passOver at hrest ⊢
    rw [List.mapIdx_cons, moves_cons, moves_cons, List.map_cons, List.mapIdx_cons, hstep, hreads,
      hrest]

theorem map_before_moves (ms : Nat → Memory) (c : Cursor) (steps : List Step) :
    (moves ms c steps).map Move.before =
      (c.position :: (moves ms c steps).map Move.after).dropLast := by
  induction steps generalizing ms c with
  | nil => rfl
  | cons step steps ih =>
    rw [moves_cons, List.map_cons, List.map_cons, List.dropLast_cons_cons, ih]

theorem exists_getElem?_moves {c : Cursor} (ms : Nat → Memory) {steps : List Step} {i : Nat}
    {step : Step} (h : steps[i]? = some step) :
    ∃ d : Cursor, d.target = c.target ∧ (moves ms c steps)[i]? =
      some ⟨d.position, (d.after step).position, some ((d.reply step).result (ms i)),
        (d.reply step).reads (ms i)⟩ := by
  induction steps generalizing c ms i with
  | nil => contradiction
  | cons first steps ih =>
    rw [moves_cons]
    cases i with
    | zero =>
      injection h with h
      subst h
      exact ⟨c, rfl, rfl⟩
    | succ i =>
      rcases ih (c := c.after first) (fun i => ms (i + 1)) h with ⟨d, htarget, hmove⟩
      rw [target_after] at htarget
      exact ⟨d, htarget, hmove⟩

theorem moves_independent (w : PointerWidth) (order other : ByteOrder) (a : Address)
    (ms ns : Nat → Memory) (steps : List Step) (passed : Nat → Bool) :
    let done : List Move := moves ms ⟨⟨w, order⟩, a⟩ steps
    let others : List Move := moves ns ⟨⟨w, other⟩, a⟩ (passOver passed steps)
    others.map Move.after = done.map Move.after ∧
    others.map Move.requests = done.mapIdx (fun i move => if passed i then [] else move.requests) ∧
    done.map Move.before = (a :: done.map Move.after).dropLast ∧
    ∀ (i : Nat) (step : Step), steps[i]? = some step → ∃ (move : Move) (reply : Reply),
      done[i]? = some move ∧ move.reply = some reply ∧
      (step.readSize? w = none → move.requests = []) ∧
      ∀ size, step.readSize? w = some size →
        move.requests = [(move.before.alignUp (UInt64.ofNat size), size)] ∧
        (reply.isMissing ↔ ¬(ms i).HasField (move.before.alignUp (UInt64.ofNat size)) size) := by
  intro done others
  have halike : (Cursor.mk ⟨w, order⟩ a).Alike ⟨⟨w, other⟩, a⟩ := ⟨rfl, rfl⟩
  refine ⟨map_after_moves_passOver halike ms ns passed steps,
    map_requests_moves_passOver halike ms ns passed steps, map_before_moves _ _ _, ?_⟩
  intro i step hstep
  rcases exists_getElem?_moves (c := ⟨⟨w, order⟩, a⟩) ms hstep with ⟨d, htarget, hmove⟩
  have hreads := reads_reply d step (ms i)
  rw [htarget] at hreads
  refine ⟨_, _, hmove, rfl, ?_, ?_⟩
  . intro hnone
    show (d.reply step).reads (ms i) = []
    rw [hreads, hnone]
    rfl
  . intro size hsome
    constructor
    . show (d.reply step).reads (ms i) = [(d.field size, size)]
      rw [hreads, hsome]
      rfl
    . apply isMissing_result_reply
      rw [htarget]
      exact hsome

end Cursor

end LuaScope
