import LuaScope.Check
import LuaScope.Failure
import LuaScope.Memory
import LuaScope.Notice
import LuaScope.Primitive

/-!
This module contains computations over the memory of a target. Such a computation is a tree of read
requests, notices and checks, so that the same one can be run over an image, over a live process or
over any other memory, and its requests can be told from its structure. What a computation comes to
is defined without regard to its checks.
-/

namespace LuaScope

inductive Peek (α : Type) where
  | done (result : α)
  | read (address : Address) (length : Nat) (next : Option (List UInt8) → Peek α)
  | note (notice : Notice) (rest : Peek α)
  | check (c : Check) (rest : Peek α)

namespace Peek

variable {α β : Type}

def andThen (p : Peek α) (f : α → Peek β) : Peek β :=
  match p with
  | .done a => f a
  | .read address length next => .read address length fun reply => (next reply).andThen f
  | .note notice rest => .note notice (rest.andThen f)
  | .check c rest => .check c (rest.andThen f)

instance : Monad Peek where
  pure := .done
  bind := andThen

@[simp]
theorem pure_eq (a : α) : (pure a : Peek α) = .done a := rfl

@[simp]
theorem done_bind (a : α) (f : α → Peek β) : (done a >>= f) = f a := rfl

@[simp]
theorem read_bind (address : Address) (length : Nat) (next : Option (List UInt8) → Peek α)
    (f : α → Peek β) :
    (read address length next >>= f) = read address length fun reply => next reply >>= f := rfl

@[simp]
theorem note_bind (notice : Notice) (rest : Peek α) (f : α → Peek β) :
    (note notice rest >>= f) = note notice (rest >>= f) := rfl

@[simp]
theorem check_bind (c : Check) (rest : Peek α) (f : α → Peek β) :
    (check c rest >>= f) = check c (rest >>= f) := rfl

theorem bind_done (p : Peek α) : (p >>= done) = p := by
  induction p with
  | done a => rfl
  | read address length next ih => simp [ih]
  | note notice rest ih => simp [ih]
  | check c rest ih => simp [ih]

theorem bind_assoc {γ : Type} (p : Peek α) (f : α → Peek β) (g : β → Peek γ) :
    (p >>= f >>= g) = p >>= fun a => f a >>= g := by
  induction p with
  | done a => rfl
  | read address length next ih => simp [ih]
  | note notice rest ih => simp [ih]
  | check c rest ih => simp [ih]

instance : LawfulMonad Peek :=
  LawfulMonad.mk' Peek bind_done (fun _ _ => rfl) bind_assoc

def result (m : Memory) : Peek α → α
  | .done a => a
  | .read address length next => (next (m.read address length)).result m
  | .note _ rest | .check _ rest => rest.result m

def reads (m : Memory) : Peek α → List (Address × Nat)
  | .done _ => []
  | .read address length next => (address, length) :: (next (m.read address length)).reads m
  | .note _ rest | .check _ rest => rest.reads m

def notices (m : Memory) : Peek α → List Notice
  | .done _ => []
  | .read address length next => (next (m.read address length)).notices m
  | .note notice rest => notice :: rest.notices m
  | .check _ rest => rest.notices m

@[simp]
theorem result_bind (m : Memory) (p : Peek α) (f : α → Peek β) :
    (p >>= f).result m = (f (p.result m)).result m := by
  induction p with
  | done a => rfl
  | read address length next ih => simp [result, ih]
  | note notice rest ih => simp [result, ih]
  | check c rest ih => simp [result, ih]

@[simp]
theorem reads_bind (m : Memory) (p : Peek α) (f : α → Peek β) :
    (p >>= f).reads m = p.reads m ++ (f (p.result m)).reads m := by
  induction p with
  | done a => rfl
  | read address length next ih => simp [reads, result, ih]
  | note notice rest ih => simp [reads, result, ih]
  | check c rest ih => simp [reads, result, ih]

@[simp]
theorem notices_bind (m : Memory) (p : Peek α) (f : α → Peek β) :
    (p >>= f).notices m = p.notices m ++ (f (p.result m)).notices m := by
  induction p with
  | done a => rfl
  | read address length next ih => simp [notices, result, ih]
  | note notice rest ih => simp [notices, result, ih]
  | check c rest ih => simp [notices, result, ih]

theorem result_congr {m n : Memory} {p : Peek α}
    (h : ∀ r ∈ p.reads m, m.read r.1 r.2 = n.read r.1 r.2) : p.result m = p.result n := by
  induction p with
  | done a => rfl
  | read address length next ih =>
    simp only [reads, List.mem_cons, forall_eq_or_imp] at h
    simp only [result, ← h.1]
    exact ih _ h.2
  | note notice rest ih => exact ih h
  | check c rest ih => exact ih h

structure Record (α : Type) where
  result : α
  reads : Array (Address × Nat)
  notices : Array Notice

def run (m : Memory) (p : Peek α) : Record α :=
  go #[] #[] p
where
  go (reads : Array (Address × Nat)) (notices : Array Notice) : Peek α → Record α
    | .done a => ⟨a, reads, notices⟩
    | .read address length next =>
      go (reads.push (address, length)) notices (next (m.read address length))
    | .note notice rest => go reads (notices.push notice) rest
    | .check _ rest => go reads notices rest

theorem run.go_eq (m : Memory) (p : Peek α) (rs : Array (Address × Nat)) (ns : Array Notice) :
    run.go m rs ns p = ⟨p.result m, rs ++ p.reads m, ns ++ p.notices m⟩ := by
  induction p generalizing rs ns with
  | done a => simp [go, Peek.result, Peek.reads, Peek.notices]
  | read address length next ih => simp [go, ih, Peek.result, Peek.reads, Peek.notices]
  | note notice rest ih => simp [go, ih, Peek.result, Peek.reads, Peek.notices]
  | check c rest ih => simp [go, ih, Peek.result, Peek.reads, Peek.notices]

theorem run_eq (m : Memory) (p : Peek α) :
    p.run m = ⟨p.result m, (p.reads m).toArray, (p.notices m).toArray⟩ := by
  simp [run, run.go_eq]

def perform {m : Type → Type} [Monad m] (readAt : Address → Nat → m (Option (List UInt8)))
    (report : Notice → m Unit) : Peek α → m α
  | .done a => pure a
  | .read address length next => do
    let reply ← readAt address length
    (next reply).perform readAt report
  | .note notice rest => do
    report notice
    rest.perform readAt report
  | .check _ rest => rest.perform readAt report

/--
Carries out a computation as a debug build does, which ends at the first check that does not hold.
The memory may end it as well.
-/
def guarded (readAt : Address → Nat → Except Check (Option (List UInt8))) : Peek α → Except Check α
  | .done a => .ok a
  | .read address length next => do
    let reply ← readAt address length
    (next reply).guarded readAt
  | .note _ rest => rest.guarded readAt
  | .check c rest => do
    c.pass
    rest.guarded readAt

def bytes (address : Address) (length : Nat) : Peek (Option (List UInt8)) :=
  .read address length .done

def readBytes (address : Address) (length : Nat) : Peek (Except Failure (List UInt8)) :=
  .read address length fun reply =>
    match reply with
    | some bytes => .done (.ok bytes)
    | none => .done (.error (.readFailed address length))

def report (notice : Notice) : Peek Unit :=
  .note notice (.done ())

def verify (c : Check) : Peek Unit :=
  .check c (.done ())

/--
Reads a scalar. An answer of any length but the size of the scalar counts as a failure.
-/
def scalar (order : ByteOrder) (p : Primitive) (address : Address) : Peek (Option p.Carrier) :=
  .read address p.size fun reply =>
    match reply with
    | none => .done none
    | some bytes =>
      if bytes.length = p.size then
        .check (.slice 0 p.size bytes.length) (.done (some (p.decode order bytes)))
      else .done none

def pointer (target : Target) (address : Address) : Peek (Option Address) :=
  match target.width with
  | .four => do
    let value ← scalar target.order .u32 address
    return value.map fun (v : UInt32) => ⟨v.toUInt64⟩
  | .eight => do
    let value ← scalar target.order .u64 address
    return value.map fun (v : UInt64) => ⟨v⟩

@[simp]
theorem result_scalar (m : Memory) (order : ByteOrder) (p : Primitive) (address : Address) :
    (scalar order p address).result m = (m.read address p.size).bind (p.decode? order) := by
  simp only [scalar, result]
  split
  . next h => simp [h, result]
  . next bytes h =>
    rw [h, Option.bind_some, Primitive.decode?]
    split <;> rfl

@[simp]
theorem reads_scalar (m : Memory) (order : ByteOrder) (p : Primitive) (address : Address) :
    (scalar order p address).reads m = [(address, p.size)] := by
  simp only [scalar, reads]
  split
  . rfl
  . split <;> rfl

@[simp]
theorem reads_pointer (m : Memory) (target : Target) (address : Address) :
    (pointer target address).reads m = [(address, target.width.bytes)] := by
  unfold pointer
  cases target.width with
  | four | eight =>
    rw [reads_bind, reads_scalar]
    rfl

end Peek

end LuaScope
