import LuaScope.Peek

/-!
This module contains what can be said of a computation whatever answers it gets. They may come from a
memory that changes all the time, so that one request is not answered twice in the same way.
-/

namespace LuaScope

namespace Peek

variable {α β σ : Type}

structure Session (σ α : Type) where
  result : α
  state : σ
  reads : List (Address × Nat)
  checks : List Check

def session (readAt : Address → Nat → StateM σ (Option (List UInt8))) : Peek α → σ → Session σ α
  | .done a, s => ⟨a, s, [], []⟩
  | .read address length next, s =>
    let answered := readAt address length s
    let rest := (next answered.1).session readAt answered.2
    { rest with reads := (address, length) :: rest.reads }
  | .note _ rest, s => rest.session readAt s
  | .check c rest, s =>
    let rest := rest.session readAt s
    { rest with checks := c :: rest.checks }

theorem perform_eq (readAt : Address → Nat → StateM σ (Option (List UInt8))) (p : Peek α) (s : σ) :
    p.perform readAt (fun _ => pure ()) s =
      ((p.session readAt s).result, (p.session readAt s).state) := by
  induction p generalizing s with
  | done a => rfl
  | read address length next ih => exact ih _ _
  | note notice rest ih => exact ih s
  | check c rest ih => exact ih s

theorem result_session {m : Memory} {readAt : Address → Nat → StateM σ (Option (List UInt8))}
    {p : Peek α} (h : ∀ r ∈ p.reads m, ∀ s, (readAt r.1 r.2 s).1 = m.read r.1 r.2) (s : σ) :
    (p.session readAt s).result = p.result m := by
  induction p generalizing s with
  | done a => rfl
  | read address length next ih =>
    rw [reads, List.forall_mem_cons] at h
    unfold session result
    dsimp only
    rw [h.1 s]
    apply ih _ h.2
  | note notice rest ih => exact ih h s
  | check c rest ih => exact ih h s

theorem session_map (readAt : Address → Nat → StateM σ (Option (List UInt8))) (p : Peek α)
    (f : α → β) (s : σ) :
    (p >>= fun a => done (f a)).session readAt s =
      { p.session readAt s with result := f (p.session readAt s).result } := by
  induction p generalizing s with
  | done a => rfl
  | read address length next ih =>
    rw [read_bind]
    unfold session
    dsimp only
    rw [ih]
  | note notice rest ih => exact ih s
  | check c rest ih =>
    rw [check_bind]
    unfold session
    dsimp only
    rw [ih]

/--
As long as the answers are allowed all checks of a computation hold, and its requests and what it
comes to meet a condition.
-/
def Always (allowed : Nat → Option (List UInt8) → Prop) :
    Peek α → (List (Address × Nat) → α → Prop) → Prop
  | .done a, post => post [] a
  | .read address length next, post => ∀ reply, allowed length reply →
    (next reply).Always allowed fun rs a => post ((address, length) :: rs) a
  | .note _ rest, post => rest.Always allowed post
  | .check c rest, post => c.Holds ∧ rest.Always allowed post

variable {allowed : Nat → Option (List UInt8) → Prop} {p : Peek α}

theorem Always.mono {post weaker : List (Address × Nat) → α → Prop} (h : p.Always allowed post)
    (hpost : ∀ rs a, post rs a → weaker rs a) : p.Always allowed weaker := by
  induction p generalizing post weaker with
  | done a => exact hpost [] a h
  | read address length next ih =>
    intro reply hreply
    apply ih reply (h reply hreply)
    intro rs a
    apply hpost
  | note notice rest ih => exact ih h hpost
  | check c rest ih => exact ⟨h.1, ih h.2 hpost⟩

theorem Always.bind {mid : List (Address × Nat) → α → Prop} {f : α → Peek β}
    {post : List (Address × Nat) → β → Prop} (hp : p.Always allowed mid)
    (hf : ∀ rs a, mid rs a → (f a).Always allowed fun rest b => post (rs ++ rest) b) :
    (p >>= f).Always allowed post := by
  induction p generalizing mid post with
  | done a => exact hf [] a hp
  | read address length next ih =>
    intro reply hreply
    apply ih reply (hp reply hreply)
    intro rs a hmid
    apply hf _ a hmid
  | note notice rest ih => exact ih hp hf
  | check c rest ih => exact ⟨hp.1, ih hp.2 hf⟩

theorem Always.session {post : List (Address × Nat) → α → Prop} (h : p.Always allowed post)
    {readAt : Address → Nat → StateM σ (Option (List UInt8))}
    (hreadAt : ∀ a n s, allowed n (readAt a n s).1) (s : σ) :
    (∀ c ∈ (p.session readAt s).checks, c.Holds) ∧
      post (p.session readAt s).reads (p.session readAt s).result := by
  induction p generalizing s post with
  | done a => exact ⟨nofun, h⟩
  | read address length next ih => exact ih _ (h _ (hreadAt address length s)) _
  | note notice rest ih => exact ih h s
  | check c rest ih =>
    rcases ih h.2 s with ⟨hchecks, hpost⟩
    refine ⟨?_, hpost⟩
    exact List.forall_mem_cons.mpr ⟨h.1, hchecks⟩

/--
An answer may be shorter than the range that was asked for, but it is empty only if the range is.
-/
def Advances (length : Nat) (reply : Option (List UInt8)) : Prop :=
  ∀ bs, reply = some bs → bs.length ≤ length ∧ (0 < length → 0 < bs.length)

end Peek

end LuaScope
