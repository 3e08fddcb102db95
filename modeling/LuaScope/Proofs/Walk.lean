import LuaScope.Proofs.Alignment
import LuaScope.Decoder

/-!
This module contains what a walk over a structure comes to over a memory: the value, if it did not
end before, the cursor behind the last field that it passed, and the requests that it made. The steps
of a walk that begins at an aligned address lead to the offsets of the fields.
-/

namespace LuaScope

namespace Walk

variable {α β : Type}

def outcome (w : Walk α) (m : Memory) (c : Cursor) : Option α × Cursor :=
  (w.run.run c).result m

def requests (w : Walk α) (m : Memory) (c : Cursor) : List (Address × Nat) :=
  (w.run.run c).reads m

theorem result_start (w : Walk α) (m : Memory) (t : Target) (a : Address) :
    (w.start t a).result m = (w.outcome m ⟨t, a⟩).1 := by
  unfold start outcome
  rw [Peek.result_bind]
  rfl

theorem reads_start (w : Walk α) (m : Memory) (t : Target) (a : Address) :
    (w.start t a).reads m = w.requests m ⟨t, a⟩ := by
  unfold start requests
  rw [Peek.reads_bind]
  apply List.append_nil

@[simp]
theorem outcome_pure (x : α) (m : Memory) (c : Cursor) :
    (pure x : Walk α).outcome m c = (some x, c) := rfl

@[simp]
theorem requests_pure (x : α) (m : Memory) (c : Cursor) :
    (pure x : Walk α).requests m c = [] := rfl

theorem run_bind (w : Walk α) (f : α → Walk β) (c : Cursor) :
    (w >>= f).run.run c =
      w.run.run c >>= fun d =>
        (match d.1 with
        | some x => (f x).run
        | none => pure none).run d.2 := rfl

theorem outcome_bind (w : Walk α) (f : α → Walk β) (m : Memory) (c : Cursor) :
    (w >>= f).outcome m c =
      match w.outcome m c with
      | (some x, d) => (f x).outcome m d
      | (none, d) => (none, d) := by
  unfold outcome
  rw [run_bind, Peek.result_bind]
  cases (w.run.run c).result m with
  | mk value d => cases value <;> rfl

theorem fst_outcome_bind (w : Walk α) (f : α → Walk β) (m : Memory) (c : Cursor) :
    ((w >>= f).outcome m c).1 =
      (w.outcome m c).1.bind fun x => ((f x).outcome m (w.outcome m c).2).1 := by
  rw [outcome_bind]
  cases w.outcome m c with
  | mk value d => cases value <;> rfl

theorem requests_bind (w : Walk α) (f : α → Walk β) (m : Memory) (c : Cursor) :
    (w >>= f).requests m c =
      w.requests m c ++ (w.outcome m c).1.elim [] fun x => (f x).requests m (w.outcome m c).2 := by
  unfold requests outcome
  rw [run_bind, Peek.reads_bind]
  cases (w.run.run c).result m with
  | mk value d => cases value <;> rfl

@[simp]
theorem outcome_map (f : α → β) (w : Walk α) (m : Memory) (c : Cursor) :
    (f <$> w).outcome m c = ((w.outcome m c).1.map f, (w.outcome m c).2) := by
  rw [map_eq_pure_bind, outcome_bind]
  cases w.outcome m c with
  | mk value d => cases value <;> rfl

@[simp]
theorem requests_map (f : α → β) (w : Walk α) (m : Memory) (c : Cursor) :
    (f <$> w).requests m c = w.requests m c := by
  rw [map_eq_pure_bind, requests_bind]
  cases (w.outcome m c).1 <;> apply List.append_nil

@[simp]
theorem outcome_get (m : Memory) (c : Cursor) :
    (get : Walk Cursor).outcome m c = (some c, c) := rfl

@[simp]
theorem requests_get (m : Memory) (c : Cursor) : (get : Walk Cursor).requests m c = [] := rfl

@[simp]
theorem outcome_set (d : Cursor) (m : Memory) (c : Cursor) :
    (set d : Walk PUnit).outcome m c = (some ⟨⟩, d) := rfl

@[simp]
theorem requests_set (d : Cursor) (m : Memory) (c : Cursor) :
    (set d : Walk PUnit).requests m c = [] := rfl

@[simp]
theorem outcome_modify (f : Cursor → Cursor) (m : Memory) (c : Cursor) :
    (modify f : Walk PUnit).outcome m c = (some ⟨⟩, f c) := rfl

@[simp]
theorem requests_modify (f : Cursor → Cursor) (m : Memory) (c : Cursor) :
    (modify f : Walk PUnit).requests m c = [] := rfl

theorem run_lift (p : Peek α) (c : Cursor) :
    (liftM p : Walk α).run.run c =
      (p >>= fun x => pure (x, c)) >>= fun d => pure (some d.1, d.2) := rfl

@[simp]
theorem outcome_lift (p : Peek α) (m : Memory) (c : Cursor) :
    (liftM p : Walk α).outcome m c = (some (p.result m), c) := by
  unfold outcome
  rw [run_lift, Peek.result_bind, Peek.result_bind]
  rfl

@[simp]
theorem requests_lift (p : Peek α) (m : Memory) (c : Cursor) :
    (liftM p : Walk α).requests m c = p.reads m := by
  unfold requests
  rw [run_lift, Peek.reads_bind, Peek.reads_bind]
  simp [Peek.reads]

@[simp]
theorem outcome_position (m : Memory) (c : Cursor) :
    position.outcome m c = (some c.position, c) := rfl

@[simp]
theorem requests_position (m : Memory) (c : Cursor) : position.requests m c = [] := rfl

@[simp]
theorem outcome_verify (step : Cursor.Step) (m : Memory) (c : Cursor) :
    (verify step).outcome m c = (some (), c) := rfl

@[simp]
theorem requests_verify (step : Cursor.Step) (m : Memory) (c : Cursor) :
    (verify step).requests m c = [] := rfl

@[simp]
theorem outcome_skip (p : Primitive) (m : Memory) (c : Cursor) :
    (skip p).outcome m c = (some (), c.skip p) := rfl

@[simp]
theorem requests_skip (p : Primitive) (m : Memory) (c : Cursor) :
    (skip p).requests m c = [] := rfl

@[simp]
theorem outcome_skipPointer (m : Memory) (c : Cursor) :
    skipPointer.outcome m c = (some (), c.skipPointer) := rfl

@[simp]
theorem requests_skipPointer (m : Memory) (c : Cursor) : skipPointer.requests m c = [] := rfl

@[simp]
theorem outcome_skipPointers (count : Nat) (m : Memory) (c : Cursor) :
    (skipPointers count).outcome m c = (some (), count.repeat Cursor.skipPointer c) := rfl

@[simp]
theorem requests_skipPointers (count : Nat) (m : Memory) (c : Cursor) :
    (skipPointers count).requests m c = [] := rfl

@[simp]
theorem outcome_align (n : UInt64) (m : Memory) (c : Cursor) :
    (align n).outcome m c = (some (), c.align n) := rfl

@[simp]
theorem requests_align (n : UInt64) (m : Memory) (c : Cursor) :
    (align n).requests m c = [] := rfl

@[simp]
theorem outcome_require (value : Option α) (m : Memory) (c : Cursor) :
    (require value).outcome m c = (value, c) := rfl

@[simp]
theorem requests_require (value : Option α) (m : Memory) (c : Cursor) :
    (require value).requests m c = [] := rfl

@[simp]
theorem outcome_attempt (p : Primitive) (m : Memory) (c : Cursor) :
    (attempt p).outcome m c = (some ((c.read p).result m), c.skip p) := by
  simp only [attempt, outcome_bind, outcome_verify, outcome_get, outcome_lift, outcome_set,
    outcome_pure]

@[simp]
theorem requests_attempt (p : Primitive) (m : Memory) (c : Cursor) :
    (attempt p).requests m c = [(c.field p.size, p.size)] := by
  simp [attempt, requests_bind]

-- rewriting finds the type of a field only where it is spelled out
theorem outcome_attempt_byte (m : Memory) (c : Cursor) :
    @outcome (Option UInt8) (attempt .u8) m c = (some ((c.read .u8).result m), c.skip .u8) :=
  outcome_attempt .u8 m c

@[simp]
theorem outcome_read (p : Primitive) (m : Memory) (c : Cursor) :
    (read p).outcome m c = ((c.read p).result m, c.skip p) := by
  rw [read, outcome_bind, outcome_attempt]
  rfl

@[simp]
theorem requests_read (p : Primitive) (m : Memory) (c : Cursor) :
    (read p).requests m c = [(c.field p.size, p.size)] := by
  simp [read, requests_bind]

theorem outcome_read_byte (m : Memory) (c : Cursor) :
    @outcome UInt8 (read .u8) m c = ((c.read .u8).result m, c.skip .u8) :=
  outcome_read .u8 m c

theorem requests_read_byte (m : Memory) (c : Cursor) :
    @requests UInt8 (read .u8) m c = [(c.field 1, 1)] :=
  requests_read .u8 m c

@[simp]
theorem outcome_readPointer (m : Memory) (c : Cursor) :
    readPointer.outcome m c = (c.readPointer.result m, c.skipPointer) := by
  simp only [readPointer, outcome_bind, outcome_verify, outcome_get, outcome_lift, outcome_set,
    outcome_require]

@[simp]
theorem requests_readPointer (m : Memory) (c : Cursor) :
    readPointer.requests m c = [(c.field c.target.width.bytes, c.target.width.bytes)] := by
  simp [readPointer, requests_bind]

@[simp]
theorem outcome_readSize (m : Memory) (c : Cursor) :
    readSize.outcome m c = ((c.readPointer.result m).map Address.toNat, c.skipPointer) := by
  rw [readSize, outcome_bind, outcome_readPointer]
  cases c.readPointer.result m <;> rfl

@[simp]
theorem requests_readSize (m : Memory) (c : Cursor) :
    readSize.requests m c = [(c.field c.target.width.bytes, c.target.width.bytes)] := by
  simp [readSize]

@[simp]
theorem outcome_commonHeader (m : Memory) (c : Cursor) :
    commonHeader.outcome m c =
      (some ((c.skipPointer.read .u8).result m), (c.skipPointer.skip .u8).skip .u8) := by
  simp only [commonHeader, outcome_bind, outcome_skipPointer]
  rw [outcome_attempt]
  simp only [outcome_skip, outcome_pure]

end Walk

namespace Cursor

variable (t : Target) {a : Address} {n : Nat}

theorem bytes_dvd (w : PointerWidth) : w.bytes ∣ 8 := by
  cases w <;> decide

theorem size_dvd (p : Primitive) : p.size ∣ 8 := by
  cases p <;> decide

theorem skip_add (p : Primitive) (ha : 8 ∣ a.toNat)
    (h : a.toNat + roundUp n p.size < UInt64.size) :
    (Cursor.mk t (a + n)).skip p = ⟨t, a + (roundUp n p.size + p.size)⟩ :=
  past_add t (size_dvd p) (Nat.dvd_trans (size_dvd p) ha) h

theorem read_add (p : Primitive) (ha : 8 ∣ a.toNat)
    (h : a.toNat + roundUp n p.size < UInt64.size) :
    (Cursor.mk t (a + n)).read p = Peek.scalar t.order p (a + roundUp n p.size) := by
  unfold read
  rw [field_add t (size_dvd p) (Nat.dvd_trans (size_dvd p) ha) h]

end Cursor

end LuaScope
