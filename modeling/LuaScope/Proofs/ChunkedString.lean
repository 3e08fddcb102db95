import LuaScope.Proofs.CStringRead
import LuaScope.Proofs.Sessions

/-!
This module contains the proof that a byte string is the same whether it is read a chunk at a time,
with answers that may be cut short anywhere, or a byte at a time. What is left to be read behind the
bytes of the chunks so far is what single reads make of it.
-/

namespace LuaScope

def Memory.ofContents (contents : Address → Option UInt8) : Memory :=
  ⟨.native, fun a n => (List.range n).mapM fun i => contents (a + i)⟩

namespace Peek

variable {σ : Type} {contents : Address → Option UInt8}

/--
How a process answers a request. If the first byte can be read it gives this one and perhaps more of
those behind it, up to as many as were asked for, and if not it gives none.
-/
structure Serves (contents : Address → Option UInt8) (address : Address) (length : Nat)
    (reply : Option (List UInt8)) : Prop where
  readable : contents address ≠ none → ∃ bs, reply = some bs ∧ 0 < bs.length ∧
    bs.length ≤ length ∧ ∀ i (h : i < bs.length), contents (address + i) = some bs[i]
  unreadable : contents address = none → reply = none ∨ reply = some []

def wholly (readAt : Address → Nat → StateM σ (Option (List UInt8))) (address : Address)
    (length : Nat) : StateM σ (Option (List UInt8)) := fun s =>
  let answered := readAt address length s
  (answered.1.filter (·.length == length), answered.2)

end Peek

theorem Memory.read_ofContents (contents : Address → Option UInt8) (a : Address) :
    (ofContents contents).read a 1 = (contents a).map fun b => [b] := by
  show (List.range 1).mapM (fun i => contents (a + i)) = _
  cases h : contents a <;> simp [List.range_succ, Address.add_zero, h]

namespace CString

open Peek

variable {σ : Type} {contents : Address → Option UInt8}
  {readAt : Address → Nat → StateM σ (Option (List UInt8))}

theorem byChunk.session_end (a : Address) (out : Array UInt8) (s : σ) :
    (if out.isEmpty then Peek.done (Except.error (Failure.readFailed a 1))
      else .done (.ok out.toList)).session readAt s =
      ⟨if out.size = 0 then .error (.readFailed a 1) else .ok out.toList, s, [], []⟩ := by
  split
  . next hempty =>
    rw [Array.isEmpty_iff_size_eq_zero] at hempty
    rw [if_pos hempty]
    rfl
  . next hempty =>
    rw [Array.isEmpty_iff_size_eq_zero] at hempty
    rw [if_neg hempty]
    rfl

theorem byByte.result_go_of_none {a : Address} {offset left : Nat} (hleft : 0 < left)
    (out : Array UInt8) (h : contents (a + offset) = none) :
    (go a offset left out).result (Memory.ofContents contents) =
      if offset = 0 then .error (.readFailed a 1) else .ok out.toList := by
  have hread : (Memory.ofContents contents).read (a + offset) 1 = none := by
    rw [Memory.read_ofContents, h]
    rfl
  rcases Nat.exists_eq_add_of_lt hleft with ⟨rest, rfl⟩
  rw [Nat.zero_add, result_go_succ, hread]

theorem byByte.result_go_of_contents {a : Address} {offset left : Nat} {bs : List UInt8}
    (hle : bs.length ≤ left) (out : Array UInt8)
    (h : ∀ i (hi : i < bs.length), contents (a + offset + i) = some bs[i]) :
    (go a offset left out).result (Memory.ofContents contents) =
      if 0 ∈ bs then .ok (out.toList ++ bs.takeWhile (· != 0))
      else (go a (offset + bs.length) (left - bs.length) (out ++ bs)).result
        (Memory.ofContents contents) := by
  have hspells : (Memory.ofContents contents).Spells (a + offset) bs := by
    intro i hi
    rw [Memory.read_ofContents, h i hi]
    rfl
  rcases Nat.exists_eq_add_of_le hle with ⟨rest, rfl⟩
  rw [result_go_of_spells hspells, Nat.add_sub_cancel_left]

theorem byChunk.session_go (hserves : ∀ a n s, 0 < n → Serves contents a n (readAt a n s).1)
    {a position : Address} {max : Nat} (fuel : Nat) {out : Array UInt8} (s : σ)
    (hposition : position = a + out.size) (hfuel : max ≤ out.size + fuel) :
    let chunks := (go a max fuel position out).session readAt s
    (∀ c ∈ chunks.checks, c.Holds) ∧ chunks.reads.length ≤ max - out.size ∧
      chunks.result =
        (byByte.go a out.size (max - out.size) out).result (Memory.ofContents contents) := by
  -- a request that is answered takes a byte at least off what is left
  induction fuel generalizing position out s with
  | zero =>
    have hall : max - out.size = 0 := Nat.sub_eq_zero_of_le hfuel
    rw [hall]
    exact ⟨List.forall_mem_singleton.mpr hfuel, Nat.le_refl 0, rfl⟩
  | succ fuel ih =>
    unfold go
    split
    . next hdone =>
      rw [Nat.sub_eq_zero_of_le hdone]
      exact ⟨List.forall_mem_nil _, Nat.zero_le _, rfl⟩
    . next hmore =>
      have hchunk := Nat.mod_lt position.toNat (show 0 < chunkSize by decide)
      have hleft : 0 < max - out.size := by omega
      dsimp only
      generalize hwanted :
        min (chunkSize - position.toNat % chunkSize) (max - out.size) = wanted
      unfold Peek.session
      have hreply := hserves position wanted s (by omega)
      generalize readAt position wanted s = answered at hreply
      rcases answered with ⟨reply, s'⟩
      subst hposition
      dsimp only at *
      cases hcontents : contents (a + out.size) with
      | none =>
        rw [byByte.result_go_of_none hleft out hcontents]
        rcases hreply.unreadable hcontents with rfl | rfl <;>
          (dsimp only; rw [byChunk.session_end]; exact ⟨List.forall_mem_nil _, hleft, rfl⟩)
      | some b =>
        rcases hreply.readable (by simp [hcontents]) with ⟨bs, rfl, hpos, hlen, hbs⟩
        rw [byByte.result_go_of_contents (by omega) out hbs]
        cases bs with
        | nil => contradiction
        | cons c cs =>
          dsimp only
          generalize c :: cs = bs at *
          simp only [List.contains_iff_mem]
          split
          . exact ⟨List.forall_mem_nil _, hleft, rfl⟩
          . have hsize := size_appendList out bs
            have hbehind : a + out.size + bs.length = a + (out ++ bs).size := by
              rw [hsize, Address.add_add]
            rcases ih s' hbehind (by omega) with ⟨hchecks, hreads, hresult⟩
            rw [hsize, ← Nat.sub_sub] at hreads hresult
            exact ⟨hchecks, by rw [List.length_cons]; omega, hresult⟩

theorem byByte.reads_go (m : Memory) (a : Address) (left offset : Nat) (out : Array UInt8) :
    ∀ r ∈ (go a offset left out).reads m, r.2 = 1 := by
  induction left generalizing offset out with
  | zero => exact List.forall_mem_nil _
  | succ left ih =>
    unfold go reads
    rw [List.forall_mem_cons]
    refine ⟨rfl, ?_⟩
    cases m.read (a + offset) 1 with
    | none =>
      dsimp only
      split <;> exact List.forall_mem_nil _
    | some bs =>
      dsimp only
      split
      . exact List.forall_mem_nil _
      . apply ih

theorem wholly_one (hserves : ∀ a n s, 0 < n → Serves contents a n (readAt a n s).1) (a : Address)
    (s : σ) : (wholly readAt a 1 s).1 = (Memory.ofContents contents).read a 1 := by
  have hreply := hserves a 1 s Nat.one_pos
  unfold wholly
  dsimp only
  rw [Memory.read_ofContents]
  cases hcontents : contents a with
  | none =>
    rcases hreply.unreadable hcontents with hnone | hnone <;>
      (rw [hnone]; rfl)
  | some b =>
    rcases hreply.readable (by simp [hcontents]) with ⟨bs, hsome, hpos, hlen, hbs⟩
    rcases List.length_eq_one_iff.mp (Nat.le_antisymm hlen hpos) with ⟨c, rfl⟩
    have hfirst := hbs 0 Nat.one_pos
    rw [Address.add_zero, hcontents] at hfirst
    injection hfirst with hfirst
    rw [hsome, hfirst]
    rfl

/--
A string that is read from a process by chunks is the one that is read a byte at a time, however the
answers are cut short, and the failure is the same if there is no first byte. The loop comes to its end
after as many requests at most as the string may have bytes.
-/
theorem byChunk_eq_byByte {σ : Type} {contents : Address → Option UInt8}
    {readAt : Address → Nat → StateM σ (Option (List UInt8))}
    (hserves : ∀ a n s, 0 < n → Serves contents a n (readAt a n s).1) (a : Address) (max : Nat)
    (s t : σ) :
    let chunks := (byChunk a max).session readAt s
    (∀ c ∈ chunks.checks, c.Holds) ∧ chunks.reads.length ≤ max ∧
    chunks.result = (byByte a max).result (Memory.ofContents contents) ∧
    chunks.result = ((byByte a max).session (wholly readAt) t).result := by
  have hstart : a = a + (#[] : Array UInt8).size := (Address.add_zero a).symm
  rcases byChunk.session_go hserves max s hstart (Nat.le_add_left max 0) with
    ⟨hchecks, hreads, hresult⟩
  refine ⟨hchecks, hreads, hresult, ?_⟩
  rw [result_session _ t]
  . exact hresult
  . rintro ⟨b, n⟩ hr s
    have hone : n = 1 := byByte.reads_go _ a max 0 #[] _ hr
    subst hone
    exact wholly_one hserves b s

theorem byChunk_of_short_answers :
    let contents : Address → Option UInt8 := fun a =>
      if 0x10FE ≤ a.toNat ∧ a.toNat < 0x1103 then some 0x41 else none
    let readAt : Address → Nat → StateM Nat (Option (List UInt8)) := fun a n s =>
      ((contents a).map (List.replicate (min (min n (s + 1)) (0x1103 - a.toNat))), s + 1)
    let chunks := (byChunk ⟨0x10FE⟩ 9).session readAt 0
    (∀ a n s, 0 < n → Serves contents a n (readAt a n s).1) ∧ (∀ c ∈ chunks.checks, c.Holds) ∧
    chunks.reads = [(⟨0x10FE⟩, 2), (⟨0x10FF⟩, 1), (⟨0x1100⟩, 7), (⟨0x1103⟩, 4)] ∧
    chunks.result = .ok [0x41, 0x41, 0x41, 0x41, 0x41] ∧
    chunks.result = ((byByte ⟨0x10FE⟩ 9).session (wholly readAt) 7).result := by
  intro contents readAt chunks
  have hserves : ∀ a n s, 0 < n → Serves contents a n (readAt a n s).1 := by
    intro a n s hn
    by_cases hin : 0x10FE ≤ a.toNat ∧ a.toNat < 0x1103
    . have hcontents : contents a = some 0x41 := if_pos hin
      constructor
      . intro _
        refine ⟨List.replicate (min (min n (s + 1)) (0x1103 - a.toNat)) 0x41, ?_, ?_, ?_, ?_⟩
        . simp only [readAt, hcontents, Option.map_some]
        . rw [List.length_replicate]
          omega
        . rw [List.length_replicate]
          omega
        . intro i hi
          rw [List.length_replicate] at hi
          rw [List.getElem_replicate]
          apply if_pos
          rw [Address.toNat_add, UInt64.size]
          omega
      . intro hnone
        rw [hcontents] at hnone
        contradiction
    . have hcontents : contents a = none := if_neg hin
      constructor
      . intro hne
        exact absurd hcontents hne
      . intro _
        left
        simp only [readAt, hcontents, Option.map_none]
  rcases byChunk_eq_byByte hserves ⟨0x10FE⟩ 9 0 7 with ⟨hchecks, -, -, hresult⟩
  exact ⟨hserves, hchecks, by decide +kernel, by decide +kernel, hresult⟩

end CString

end LuaScope
