import Mathlib.Order.Bounds.Defs
import LuaScope.Proofs.Alignment
import LuaScope.StringObject

/-!
This module contains the proof that the content of a string is its longest readable prefix, however
the memory answers requests for many bytes at once. The invariant of the loop over the pages is that
the bytes so far are the ones that single reads give from the start of the content on.
-/

namespace LuaScope

namespace Memory

variable {m : Memory} {a : Address} {bs cs : List UInt8}

def Readable (m : Memory) (a : Address) : Prop :=
  (m.read a 1).isSome

/--
The bytes are what reads of single bytes give from an address on.
-/
def Spells (m : Memory) (a : Address) (bs : List UInt8) : Prop :=
  ∀ i (h : i < bs.length), m.read (a + i) 1 = some [bs[i]]

/--
A range can be read at once only if each of its bytes can be read alone, and as the same bytes.
-/
def Agrees (m : Memory) : Prop :=
  ∀ a n bs, m.read a n = some bs → bs.length = n ∧ m.Spells a bs

def AgreesWithin (m : Memory) (a : Address) (length : Nat) : Prop :=
  ∀ o n bs, o + n ≤ length → m.read (a + o) n = some bs → bs.length = n ∧ m.Spells (a + o) bs

theorem Agrees.within (h : m.Agrees) (a : Address) (length : Nat) : m.AgreesWithin a length := by
  intro o n bs _ hread
  apply h _ _ _ hread

theorem spells_nil : m.Spells a [] := by
  intro i hi
  contradiction

theorem Spells.append (hbs : m.Spells a bs) (hcs : m.Spells (a + bs.length) cs) :
    m.Spells a (bs ++ cs) := by
  intro i hi
  rw [List.length_append] at hi
  by_cases hlt : i < bs.length
  . rw [List.getElem_append_left hlt]
    apply hbs i hlt
  . have hrest := hcs (i - bs.length) (by omega)
    rw [Address.add_add, Nat.add_sub_cancel' (by omega)] at hrest
    rw [List.getElem_append_right (by omega)]
    exact hrest

theorem Spells.appendList {out : Array UInt8} (hout : m.Spells a out.toList)
    (hbs : m.Spells (a + out.size) bs) : m.Spells a (out ++ bs).toList := by
  rw [Array.toList_appendList]
  apply Spells.append hout
  rw [Array.length_toList]
  exact hbs

theorem Spells.readable (h : m.Spells a bs) {i : Nat} (hi : i < bs.length) :
    m.Readable (a + i) := by
  unfold Readable
  rw [h i hi]
  rfl

theorem Spells.eq_of_length_eq (hbs : m.Spells a bs) (hcs : m.Spells a cs)
    (hlen : bs.length = cs.length) : bs = cs := by
  apply List.ext_getElem hlen
  intro i hi hi'
  have h := hbs i hi
  rw [hcs i hi'] at h
  injection h with h
  injection h with h
  apply h.symm

/--
The bytes are all that can be read from an address on, or as many of them as are wanted.
-/
structure Leads (m : Memory) (a : Address) (wanted : Nat) (bs : List UInt8) : Prop where
  spells : m.Spells a bs
  le : bs.length ≤ wanted
  stops : bs.length < wanted → ¬m.Readable (a + bs.length)

theorem Spells.leads {wanted : Nat} (h : m.Spells a bs) (hlen : bs.length = wanted) :
    m.Leads a wanted bs where
  spells := h
  le := Nat.le_of_eq hlen
  stops hlt := absurd hlen (Nat.ne_of_lt hlt)

theorem Leads.isGreatest {wanted : Nat} (h : m.Leads a wanted bs) :
    IsGreatest {k | k ≤ wanted ∧ ∀ i < k, m.Readable (a + i)} bs.length := by
  constructor
  . constructor
    . apply h.le
    . intro i hi
      apply h.spells.readable hi
  . intro k hk
    apply Nat.le_of_not_lt
    intro hlt
    have hstop := h.stops (by have := hk.1; omega)
    apply hstop (hk.2 bs.length hlt)

end Memory

theorem size_appendList (out : Array UInt8) (bs : List UInt8) :
    (out ++ bs).size = out.size + bs.length := by
  rw [← Array.length_toList, Array.toList_appendList, List.length_append, Array.length_toList]

namespace Peek

variable {m : Memory} {a : Address}

theorem singles.result_go {wanted : Nat} (hm : m.AgreesWithin a wanted) (position : Address)
    (left offset : Nat) {out : Array UInt8} (hout : m.Spells a out.toList)
    (hposition : position + offset = a + out.size) (hroom : out.size + left ≤ wanted) :
    let (all, complete) := (singles.go position offset left out).result m
    m.Spells a all.toList ∧
      (complete = true → all.size = out.size + left) ∧
      (complete = false → all.size < out.size + left ∧ ¬m.Readable (a + all.size)) := by
  -- the bytes so far are spelled from `a` on, and the next one is read right behind them
  induction left generalizing offset out with
  | zero => simp [singles.go, result, hout]
  | succ left ih =>
    unfold singles.go result
    cases hread : m.read (position + offset) 1 with
    | none =>
      rw [hposition] at hread
      simp [result, hout, Memory.Readable, hread]
    | some bs =>
      rw [hposition] at hread
      rcases hm _ _ _ (by omega) hread with ⟨hlen, hbs⟩
      have hsize : (out ++ bs).size = out.size + 1 := by
        rw [size_appendList, hlen]
      have := ih (offset + 1) (hout.appendList hbs) (by
        rw [← Address.add_add, hposition, hsize, Address.add_add]) (by omega)
      rw [hsize, Nat.add_assoc, Nat.add_comm 1 left] at this
      exact this

theorem leading.result_go {wanted : Nat} (hm : m.AgreesWithin a wanted) (fuel : Nat)
    {out : Array UInt8} (hout : m.Spells a out.toList) (hle : out.size ≤ wanted)
    (hfuel : wanted ≤ out.size + fuel) :
    m.Leads a wanted ((leading.go a wanted fuel out).result m).toList := by
  -- every page adds a byte at least, so as much fuel as bytes are wanted is enough
  induction fuel generalizing out with
  | zero => exact hout.leads (Nat.le_antisymm hle hfuel)
  | succ fuel ih =>
    unfold leading.go
    split
    . next hdone => exact hout.leads (Nat.le_antisymm hle hdone)
    . next hmore =>
      have hpage := Nat.mod_lt (a + out.size).toNat (show 0 < pageSize by decide)
      simp only [result]
      generalize hchunk :
        min (pageSize - (a + out.size).toNat % pageSize) (wanted - out.size) = chunk
      have hpos : 0 < chunk := by omega
      have hroom : out.size + chunk ≤ wanted := by omega
      cases hread : m.read (a + out.size) chunk with
      | some bs =>
        rcases hm _ _ _ hroom hread with ⟨hlen, hbs⟩
        have hsize : (out ++ bs).size = out.size + chunk := by
          rw [size_appendList, hlen]
        apply ih
        . apply hout.appendList hbs
        . omega
        . omega
      | none =>
        -- the page is read byte by byte, and if all can be read the loop goes on behind it
        have hsingles := singles.result_go hm (a + out.size) chunk 0 hout (by simp) hroom
        rw [result_bind]
        cases hresult : (singles (a + out.size) chunk out).result m with
        | mk all complete =>
          unfold singles at hresult
          rw [hresult] at hsingles
          rcases hsingles with ⟨hall, hcomplete, hstop⟩
          cases complete with
          | true =>
            have hsize := hcomplete rfl
            apply ih hall
            . omega
            . omega
          | false =>
            rcases hstop rfl with ⟨hlt, hunreadable⟩
            constructor
            . exact hall
            . simp only [Bool.false_eq_true, if_false, result, Array.length_toList]
              omega
            . intro _
              exact hunreadable

theorem leading_leads_of_within {wanted : Nat} (hm : m.AgreesWithin a wanted) :
    m.Leads a wanted ((leading a wanted).result m).toList := by
  unfold leading
  apply leading.result_go hm wanted
  . apply Memory.spells_nil
  . apply Nat.zero_le wanted
  . omega

theorem leading_leads (hm : m.Agrees) (a : Address) (wanted : Nat) :
    m.Leads a wanted ((leading a wanted).result m).toList :=
  leading_leads_of_within (hm.within a wanted)

theorem leading_eq_of_read (hm : m.Agrees) {wanted : Nat} {bs : List UInt8}
    (h : m.read a wanted = some bs) : ((leading a wanted).result m).toList = bs := by
  rcases hm a wanted bs h with ⟨hlen, hbs⟩
  have hleads := leading_leads hm a wanted
  apply hleads.spells.eq_of_length_eq hbs
  -- both are spelled, and the prefix cannot stop at a byte that the request gave
  apply Nat.le_antisymm
  . rw [hlen]
    apply hleads.le
  . apply Nat.le_of_not_lt
    intro hlt
    have hstop := hleads.stops (by omega)
    apply hstop (hbs.readable hlt)

end Peek

namespace StringHeader

theorem result_text_longest_prefix {m : Memory} (hm : m.Agrees) (h : StringHeader) (limit : Nat) :
    ∃ bs, m.Spells h.content bs ∧
      IsGreatest {k | k ≤ min h.length limit ∧ ∀ i < k, m.Readable (h.content + i)} bs.length ∧
      ((h.text limit).result m).map Prod.fst =
        (if 0 < min h.length limit ∧ bs.length = 0 then none else some (Utf8.decodeLossy bs)) ∧
      ∀ all, m.read h.content (min h.length limit) = some all →
        ((Peek.leading h.content (min h.length limit)).result m).toList = all := by
  have hleads := Peek.leading_leads hm h.content (min h.length limit)
  refine ⟨_, hleads.spells, hleads.isGreatest, ?_, fun all hall => Peek.leading_eq_of_read hm hall⟩
  simp only [text, bytes, Peek.result_bind]
  cases hread : (Peek.bytes h.content (min h.length limit)).result m with
  | some all =>
    have heq := Peek.leading_eq_of_read hm hread
    have hlen := (hm _ _ _ hread).1
    rw [heq, if_neg (by omega)]
    rfl
  | none =>
    simp only [Peek.result_bind]
    generalize (Peek.leading h.content (min h.length limit)).result m = all
    have hempty : all.isEmpty = true ↔ all.toList.length = 0 := by
      rw [Array.isEmpty_iff_size_eq_zero, Array.length_toList]
    by_cases hmissing : 0 < min h.length limit ∧ all.toList.length = 0
    . have hcond : (all.isEmpty && decide (0 < min h.length limit)) = true := by
        rw [Bool.and_eq_true, hempty, decide_eq_true_eq]
        exact ⟨hmissing.2, hmissing.1⟩
      rw [if_pos hmissing, if_pos hcond]
      rfl
    . have hcond : ¬(all.isEmpty && decide (0 < min h.length limit)) = true := by
        rw [Bool.and_eq_true, hempty, decide_eq_true_eq]
        intro hboth
        apply hmissing ⟨hboth.2, hboth.1⟩
      rw [if_neg hmissing, if_neg hcond]
      rfl

theorem text_of_single_reads :
    let m : Memory := ⟨.native, fun a n => if n = 1 ∧ a.toNat < 0x1002 then some [0x41] else none⟩
    let h : StringHeader := ⟨false, 5, ⟨0xFFF⟩⟩
    m.Agrees ∧ (h.text 9).result m = some ("AAA", true) ∧ ∃ bs, m.Spells h.content bs ∧
      IsGreatest {k | k ≤ 5 ∧ ∀ i < k, m.Readable (h.content + i)} bs.length ∧
      ((h.text 9).result m).map Prod.fst =
        (if 0 < 5 ∧ bs.length = 0 then none else some (Utf8.decodeLossy bs)) ∧
      ∀ all, m.read h.content 5 = some all →
        ((Peek.leading h.content 5).result m).toList = all := by
  intro m h
  have hm : m.Agrees := by
    intro a n bs hread
    simp only [m] at hread
    split at hread
    . next hcond =>
      injection hread with hread
      subst hread
      refine ⟨hcond.1.symm, ?_⟩
      intro i hi
      have hzero : i = 0 := by
        simp only [List.length_singleton] at hi
        omega
      subst hzero
      rw [Address.add_zero]
      simp [m, hcond.2]
    . contradiction
  have htext : (h.text 9).result m = some ("AAA", true) := by decide +kernel
  exact ⟨hm, htext, result_text_longest_prefix hm h 9⟩

end StringHeader

end LuaScope
