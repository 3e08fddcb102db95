import LuaScope.Proofs.Moves

/-!
This module contains the positions of a cursor as numbers that have no end. Below the top of the
address space the moves of a cursor lead to them, which makes the layout of a structure the same at
all aligned addresses. At the top rounding up stays at the last multiple and moving on begins again
at zero, and there alone a cursor goes back.
-/

namespace LuaScope

namespace Cursor

namespace Step

variable (t : Target) (n : Nat) (step : Step)

def grain : Nat :=
  max 1 (step.alignment t).toNat

def length : Step → Nat
  | .read p | .skip p => p.size
  | .readPointer | .skipPointer | .readSize => t.width.bytes
  | .alignTo _ => 0
  | .skipBytes count => count

/--
Where a move from a position finds its field, if addresses had no end.
-/
def start : Nat :=
  roundUp n (step.grain t)

def stop : Nat :=
  step.start t n + step.length t

def trace (n : Nat) : List Step → List (Nat × List (Nat × Nat))
  | [] => []
  | step :: steps =>
    (step.stop t n, (step.readSize? t.width).elim [] fun size => [(step.start t n, size)]) ::
      trace (step.stop t n) steps

theorem grain_pos : 0 < step.grain t := by
  unfold grain
  omega

theorem le_start : n ≤ step.start t n :=
  le_roundUp (grain_pos t step)

theorem start_lt : step.start t n < n + step.grain t :=
  roundUp_lt (grain_pos t step)

theorem length_eq_or : step.length t = 0 ∨ step.length t = step.grain t ∨ step.grain t = 1 := by
  have hsize (p : Primitive) : p.size = max 1 (UInt64.ofNat p.size).toNat := by
    cases p <;> rfl
  have hwidth (w : PointerWidth) : w.bytes = max 1 (UInt64.ofNat w.bytes).toNat := by
    cases w <;> rfl
  cases step with
  | read p | skip p => exact Or.inr (Or.inl (hsize p))
  | readPointer | skipPointer | readSize => exact Or.inr (Or.inl (hwidth t.width))
  | alignTo k => exact Or.inl rfl
  | skipBytes count => exact Or.inr (Or.inr rfl)

variable {t} {n} {step}

theorem isAlignment_alignment (h : ∀ k, step = .alignTo k → Address.isAlignment k) :
    Address.isAlignment (step.alignment t) := by
  cases step with
  | read p | skip p => apply isAlignment_size
  | readPointer | skipPointer | readSize => apply isAlignment_width
  | alignTo k => exact h k rfl
  | skipBytes count =>
    show Address.isAlignment 0
    decide

theorem grain_dvd (h : ∀ k, step = .alignTo k → max 1 k.toNat ∣ 8) : step.grain t ∣ 8 := by
  have hsize (p : Primitive) : max 1 (UInt64.ofNat p.size).toNat ∣ 8 := by
    cases p <;> decide
  have hwidth (w : PointerWidth) : max 1 (UInt64.ofNat w.bytes).toNat ∣ 8 := by
    cases w <;> decide
  cases step with
  | read p | skip p => apply hsize
  | readPointer | skipPointer | readSize => apply hwidth
  | alignTo k => exact h k rfl
  | skipBytes count => exact Nat.one_dvd 8

theorem length_add_grain_le (h : ∀ count, step = .skipBytes count → count < UInt64.size) :
    step.length t + step.grain t ≤ UInt64.size := by
  have hsize (p : Primitive) : p.size + max 1 (UInt64.ofNat p.size).toNat ≤ UInt64.size := by
    cases p <;> decide
  have hwidth (w : PointerWidth) :
      w.bytes + max 1 (UInt64.ofNat w.bytes).toNat ≤ UInt64.size := by
    cases w <;> decide
  cases step with
  | read p | skip p => apply hsize
  | readPointer | skipPointer | readSize => apply hwidth
  | alignTo k =>
    have hlt : k.toNat < UInt64.size := k.toNat_lt
    show 0 + max 1 k.toNat ≤ UInt64.size
    omega
  | skipBytes count => exact h count rfl

theorem start_add {base : Nat} (h : step.grain t ∣ base) :
    step.start t (base + n) = base + step.start t n :=
  roundUp_add h n

theorem stop_add {base : Nat} (h : step.grain t ∣ base) :
    step.stop t (base + n) = base + step.stop t n := by
  rw [stop, start_add h, Nat.add_assoc]
  rfl

theorem trace_add {base : Nat} {steps : List Step} (h : ∀ step ∈ steps, step.grain t ∣ base) :
    trace t (base + n) steps = (trace t n steps).map fun reached =>
      (base + reached.1, reached.2.map fun field => (base + field.1, field.2)) := by
  induction steps generalizing n with
  | nil => rfl
  | cons step steps ih =>
    rcases List.forall_mem_cons.mp h with ⟨hstep, hrest⟩
    rw [trace, stop_add hstep, start_add hstep, ih hrest, trace, List.map_cons]
    cases step.readSize? t.width <;> rfl

end Step

def place (c : Cursor) (step : Step) : Address :=
  c.position.alignUp (step.alignment c.target)

theorem position_after (c : Cursor) (step : Step) :
    (c.after step).position = c.place step + step.length c.target := by
  cases step with
  | read p | skip p | readPointer | skipPointer | readSize | skipBytes count => rfl
  | alignTo k => exact (Address.add_zero _).symm

theorem field_of_readSize? {c : Cursor} {step : Step} {size : Nat}
    (h : step.readSize? c.target.width = some size) : c.field size = c.place step := by
  cases step with
  | read p | readPointer | readSize =>
    injection h with h
    subst h
    rfl
  | skip | skipPointer | alignTo | skipBytes => contradiction

section

variable {c : Cursor} {step : Step} (halign : ∀ k, step = .alignTo k → Address.isAlignment k)

include halign

theorem toNat_place :
    (c.place step).toNat =
      if step.start c.target c.position.toNat < UInt64.size then
        step.start c.target c.position.toNat
      else UInt64.size - step.grain c.target :=
  Address.toNat_alignUp_eq_ite _ (Step.isAlignment_alignment halign)

theorem toNat_place_lt_iff :
    (c.place step).toNat < c.position.toNat ↔
      UInt64.size ≤ step.start c.target c.position.toNat := by
  have hle := step.le_start c.target c.position.toNat
  have hlt := step.start_lt c.target c.position.toNat
  have hgrain : step.grain c.target ≤ UInt64.size :=
    Nat.le_of_dvd (by decide) (Address.dvd_size_of_isAlignment (Step.isAlignment_alignment halign))
  rw [toNat_place halign]
  split <;> omega

theorem toNat_after_of_lt (h : step.stop c.target c.position.toNat < UInt64.size) :
    (c.after step).position.toNat = step.stop c.target c.position.toNat := by
  have hplace := toNat_place (c := c) halign
  rw [Step.stop] at h ⊢
  rw [if_pos (by omega)] at hplace
  rw [position_after, Address.toNat_add_of_lt (by omega), hplace]

theorem toNat_after_lt_of_le (hcount : ∀ count, step = .skipBytes count → count < UInt64.size)
    (h : UInt64.size ≤ step.stop c.target c.position.toNat) :
    (c.after step).position.toNat < c.position.toNat := by
  have hplace := toNat_place (c := c) halign
  have hlt := step.start_lt c.target c.position.toNat
  have hpos := step.grain_pos c.target
  have hsum := Step.length_add_grain_le (t := c.target) hcount
  have htop := c.position.toNat_lt
  rw [position_after, Address.toNat_add, hplace]
  rw [Step.stop] at h
  split
  . next hstart =>
    -- the field is in front of the top, and moving past it begins again at zero
    rw [Nat.mod_eq_sub_mod h, Nat.mod_eq_of_lt (by omega)]
    omega
  . next hstart =>
    -- the last multiple lies below the position, and the top is next to it
    rcases step.length_eq_or c.target with hlength | hlength | hgrain
    . rw [hlength, Nat.add_zero, Nat.mod_eq_of_lt (by omega)]
      omega
    . rw [hlength, Nat.sub_add_cancel (by omega), Nat.mod_self]
      omega
    . omega

theorem toNat_after_lt_iff (hcount : ∀ count, step = .skipBytes count → count < UInt64.size) :
    (c.after step).position.toNat < c.position.toNat ↔
      UInt64.size ≤ step.stop c.target c.position.toNat := by
  constructor
  . intro hback
    apply Nat.le_of_not_lt
    intro hlt
    have hle := step.le_start c.target c.position.toNat
    rw [toNat_after_of_lt halign hlt, Step.stop] at hback
    omega
  . apply toNat_after_lt_of_le halign hcount

end

def Move.fields (move : Move) : List (Nat × Nat) :=
  move.requests.map fun request => (request.1.toNat, request.2)

def Move.trace (move : Move) : Nat × List (Nat × Nat) :=
  (move.after.toNat, move.fields)

theorem fields_reply {c : Cursor} {step : Step} (m : Memory)
    (halign : ∀ k, step = .alignTo k → Address.isAlignment k)
    (h : step.start c.target c.position.toNat < UInt64.size) :
    ((c.reply step).reads m).map (fun request => (request.1.toNat, request.2)) =
      (step.readSize? c.target.width).elim []
        fun size => [(step.start c.target c.position.toNat, size)] := by
  rw [reads_reply]
  cases hsize : step.readSize? c.target.width with
  | none => rfl
  | some size =>
    have hplace := toNat_place (c := c) halign
    rw [if_pos h, ← field_of_readSize? hsize] at hplace
    simp only [Option.elim_some, List.map_cons, List.map_nil, hplace]

theorem map_trace_moves {c : Cursor} (ms : Nat → Memory) {steps : List Step}
    (halign : ∀ step ∈ steps, ∀ k, step = .alignTo k → Address.isAlignment k)
    (hfit : ∀ reached ∈ Step.trace c.target c.position.toNat steps, reached.1 < UInt64.size) :
    (moves ms c steps).map Move.trace = Step.trace c.target c.position.toNat steps := by
  induction steps generalizing c ms with
  | nil => rfl
  | cons step steps ih =>
    rw [Step.trace] at hfit
    rcases List.forall_mem_cons.mp halign with ⟨hstep, hsteps⟩
    rcases List.forall_mem_cons.mp hfit with ⟨hstop, hstops⟩
    have hafter := toNat_after_of_lt hstep hstop
    have hfields := fields_reply (ms 0) hstep (Nat.lt_of_le_of_lt (Nat.le_add_right _ _) hstop)
    have hrest := ih (c := c.after step) (fun i => ms (i + 1)) hsteps
    rw [hafter, target_after] at hrest
    rw [moves_cons, List.map_cons, hrest hstops, Step.trace, Move.trace, Move.fields, hafter,
      hfields]

theorem moves_relocated (t : Target) {base : Address} (ms ns : Nat → Memory) {steps : List Step}
    (hbase : 8 ∣ base.toNat) (halign : ∀ k, Step.alignTo k ∈ steps → k ∈ [1, 2, 4, 8])
    (hfit : ∀ reached ∈ Step.trace t 0 steps, base.toNat + reached.1 < UInt64.size) :
    let origin := moves ns ⟨t, .null⟩ steps
    let moved := moves ms ⟨t, base⟩ steps
    origin.map Move.trace = Step.trace t 0 steps ∧
    moved.map (fun move => move.after.toNat) =
      origin.map (fun move => base.toNat + move.after.toNat) ∧
    moved.map Move.fields =
      origin.map fun move => move.fields.map fun field => (base.toNat + field.1, field.2) := by
  intro origin moved
  have hstep : ∀ step ∈ steps, ∀ k, step = .alignTo k →
      max 1 k.toNat ∣ 8 ∧ Address.isAlignment k := by
    rintro step hmem k rfl
    have hk := halign k hmem
    simp only [List.mem_cons, List.not_mem_nil, or_false] at hk
    rcases hk with rfl | rfl | rfl | rfl <;> decide
  have hgrain : ∀ step ∈ steps, step.grain t ∣ base.toNat := by
    intro step hmem
    exact Nat.dvd_trans (Step.grain_dvd fun k hk => (hstep step hmem k hk).1) hbase
  have hshift := Step.trace_add (n := 0) hgrain
  rw [Nat.add_zero] at hshift
  have horigin : origin.map Move.trace = Step.trace t 0 steps := by
    apply map_trace_moves (c := ⟨t, .null⟩) ns fun step hmem k hk => (hstep step hmem k hk).2
    intro reached hmem
    exact Nat.lt_of_le_of_lt (Nat.le_add_left _ _) (hfit reached hmem)
  have hmoved : moved.map Move.trace = Step.trace t base.toNat steps := by
    apply map_trace_moves (c := ⟨t, base⟩) ms fun step hmem k hk => (hstep step hmem k hk).2
    intro reached hmem
    rw [hshift] at hmem
    rcases List.mem_map.mp hmem with ⟨first, hfirst, rfl⟩
    exact hfit first hfirst
  rw [hshift, ← horigin, List.map_map] at hmoved
  have hafter := congrArg (List.map Prod.fst) hmoved
  have hfields := congrArg (List.map Prod.snd) hmoved
  rw [List.map_map, List.map_map] at hafter hfields
  exact ⟨horigin, hafter, hfields⟩

theorem moves_relocated_to_top :
    let steps : List Step := [.read .u8, .readPointer, .skipBytes 3, .alignTo 4, .read .i16]
    let base : Address := ⟨0xFFFFFFFFFFFFFFE0⟩
    let m : Memory := ⟨.native, fun _ _ => none⟩
    8 ∣ base.toNat ∧ (∀ k, Step.alignTo k ∈ steps → k ∈ [1, 2, 4, 8]) ∧
    (∀ reached ∈ Step.trace .native 0 steps, base.toNat + reached.1 < UInt64.size) ∧
    (moves (fun _ => m) ⟨.native, base⟩ steps).map (fun move => move.after.toNat) =
      (moves (fun _ => m) ⟨.native, .null⟩ steps).map
        fun move => base.toNat + move.after.toNat := by
  intro steps base m
  have hbase : 8 ∣ base.toNat := by decide
  have halign : ∀ k, Step.alignTo k ∈ steps → k ∈ [1, 2, 4, 8] := by simp [steps]
  have hfit : ∀ reached ∈ Step.trace .native 0 steps, base.toNat + reached.1 < UInt64.size := by
    decide
  have hmoves := moves_relocated .native (fun _ => m) (fun _ => m) hbase halign hfit
  exact ⟨hbase, halign, hfit, hmoves.2.1⟩

theorem goes_back_iff (t : Target) (a : Address) (ms : Nat → Memory) {steps : List Step}
    (halign : ∀ k, Step.alignTo k ∈ steps → Address.isAlignment k)
    (hcount : ∀ count, Step.skipBytes count ∈ steps → count < UInt64.size) :
    let done := moves ms ⟨t, a⟩ steps
    done.map Move.before = (a :: done.map Move.after).dropLast ∧
    ∀ (i : Nat) (step : Step), steps[i]? = some step → ∃ move, done[i]? = some move ∧
      (move.after.toNat < move.before.toNat ↔
        UInt64.size ≤ step.stop t move.before.toNat) ∧
      ∀ field ∈ move.fields, (field.1 < move.before.toNat ↔
        UInt64.size ≤ step.start t move.before.toNat) := by
  intro done
  refine ⟨map_before_moves _ _ _, ?_⟩
  intro i step hstep
  have hmem := List.mem_of_getElem? hstep
  have hrounds : ∀ k, step = .alignTo k → Address.isAlignment k :=
    fun k hk => halign k (hk ▸ hmem)
  have hskips : ∀ count, step = .skipBytes count → count < UInt64.size :=
    fun count hk => hcount count (hk ▸ hmem)
  rcases exists_getElem?_moves (c := ⟨t, a⟩) ms hstep with ⟨d, rfl, hmove⟩
  refine ⟨_, hmove, toNat_after_lt_iff hrounds hskips, ?_⟩
  intro field hfield
  rw [Move.fields, reads_reply] at hfield
  cases hsize : step.readSize? d.target.width with
  | none =>
    rw [hsize] at hfield
    contradiction
  | some size =>
    rw [hsize, Option.elim_some, field_of_readSize? hsize] at hfield
    rw [List.mem_singleton.mp hfield]
    exact toNat_place_lt_iff hrounds

theorem goes_back_to_zero :
    let steps : List Step := [.read .u64, .skipBytes 5, .alignTo 4]
    let m : Memory := ⟨.native, fun _ _ => none⟩
    (∀ k, Step.alignTo k ∈ steps → Address.isAlignment k) ∧
    (∀ count, Step.skipBytes count ∈ steps → count < UInt64.size) ∧
    ∃ move, (moves (fun _ => m) ⟨.native, ⟨0xFFFFFFFFFFFFFFFC⟩⟩ steps)[0]? = some move ∧
      move.after.toNat < move.before.toNat ∧
      ∀ field ∈ move.fields, field.1 < move.before.toNat := by
  intro steps m
  have halign : ∀ k, Step.alignTo k ∈ steps → Address.isAlignment k := by
    simp only [steps, List.mem_cons, reduceCtorEq, Step.alignTo.injEq, false_or, or_false,
      List.not_mem_nil]
    rintro k rfl
    decide
  have hcount : ∀ count, Step.skipBytes count ∈ steps → count < UInt64.size := by
    simp only [steps, List.mem_cons, reduceCtorEq, Step.skipBytes.injEq, false_or, or_false,
      List.not_mem_nil]
    rintro count rfl
    decide
  have hmoves := (goes_back_iff .native ⟨0xFFFFFFFFFFFFFFFC⟩ (fun _ => m) halign hcount).2
  rcases hmoves 0 (.read .u64) rfl with ⟨move, hmove, hback, hfields⟩
  have hbefore : move.before = ⟨0xFFFFFFFFFFFFFFFC⟩ := by
    injection hmove with hmove
    rw [← hmove]
  refine ⟨halign, hcount, move, hmove, hback.mpr ?_, ?_⟩
  . rw [hbefore]
    decide
  . intro field hfield
    apply (hfields field hfield).mpr
    rw [hbefore]
    decide

theorem goes_back_at_top :
    let m : Memory := ⟨.native, fun _ _ => none⟩
    let last : Cursor := ⟨.native, ⟨0xFFFFFFFFFFFFFFFF⟩⟩
    let move (step : Step) : List (Nat × Nat × List (Nat × Nat)) :=
      (moves (fun _ => m) last [step]).map fun move =>
        (move.before.toNat, move.after.toNat, move.fields)
    move (.alignTo 8) = [(0xFFFFFFFFFFFFFFFF, 0xFFFFFFFFFFFFFFF8, [])] ∧
    move (.read .u64) = [(0xFFFFFFFFFFFFFFFF, 0, [(0xFFFFFFFFFFFFFFF8, 8)])] ∧
    move (.skipBytes 1) = [(0xFFFFFFFFFFFFFFFF, 0, [])] := by
  refine ⟨?_, ?_, ?_⟩ <;> rfl

end Cursor

end LuaScope
