import Mathlib.Data.List.TakeWhile
import LuaScope.Memory.CString
import LuaScope.Proofs.Spot
import LuaScope.Proofs.StringContent

/-!
This module contains the proof that an image reads byte strings as they are read a byte at a time,
up to the end of the region that they begin in. The byte behind this region may belong to another
one, and only then a string that is read a byte at a time can be longer.
-/

namespace LuaScope

theorem Memory.Spells.drop {m : Memory} {a : Address} {bs : List UInt8} (h : m.Spells a bs)
    (n : Nat) : m.Spells (a + n) (bs.drop n) := by
  intro i hi
  rw [List.length_drop] at hi
  rw [Address.add_add, List.getElem_drop]
  apply h

namespace CString.byByte

variable {m : Memory} {a : Address} {bs : List UInt8} {offset left : Nat} {out : Array UInt8}

theorem result_go_succ :
    (go a offset (left + 1) out).result m =
      match m.read (a + offset) 1 with
      | some bytes =>
        if bytes.head? = some 0 then .ok out.toList
        else (go a (offset + 1) left (out ++ bytes)).result m
      | none => if offset = 0 then .error (.readFailed a 1) else .ok out.toList := by
  show Peek.result m (match m.read (a + offset) 1 with | some bytes => _ | none => _) = _
  cases m.read (a + offset) 1 with
  | none =>
    dsimp only
    split <;> rfl
  | some bytes =>
    dsimp only
    split <;> rfl

theorem result_go_of_spells (h : m.Spells (a + offset) bs) :
    (go a offset (bs.length + left) out).result m =
      if 0 ∈ bs then .ok (out.toList ++ bs.takeWhile (· != 0))
      else (go a (offset + bs.length) left (out ++ bs)).result m := by
  induction bs generalizing offset out with
  | nil => simp
  | cons b bs ih =>
    have hfirst := h 0 (Nat.succ_pos _)
    have hrest := h.drop 1
    rw [Address.add_zero] at hfirst
    rw [Address.add_add] at hrest
    rw [List.length_cons, Nat.add_right_comm, result_go_succ, hfirst]
    by_cases hzero : b = 0
    . simp [hzero]
    . have hne : (0 : UInt8) ≠ b := Ne.symm hzero
      have hbyte : ((b != 0) : Bool) = true := bne_iff_ne.mpr hzero
      have hadd : offset + 1 + bs.length = offset + (bs.length + 1) := by omega
      simp only [List.getElem_cons_zero, List.head?_cons, Option.some.injEq, hzero, if_false,
        List.mem_cons, hne, false_or, List.takeWhile_cons, hbyte, if_true]
      rw [ih hrest, hadd]
      simp

theorem isPrefix_go {cs : List UInt8} (h : (go a offset left out).result m = .ok cs) :
    out.toList <+: cs := by
  induction left generalizing offset out with
  | zero =>
    injection h with h
    subst h
    apply List.prefix_rfl
  | succ left ih =>
    rw [result_go_succ] at h
    split at h
    . split at h
      . injection h with h
        subst h
        apply List.prefix_rfl
      . have hprefix := ih h
        rw [Array.toList_appendList] at hprefix
        apply (List.prefix_append _ _).trans hprefix
    . split at h
      . contradiction
      . injection h with h
        subst h
        apply List.prefix_rfl

end CString.byByte

namespace CString

variable {m : Memory} {a : Address} {bs : List UInt8}

theorem takeWhile_of_not_mem (h : 0 ∉ bs) : bs.takeWhile (· != 0) = bs := by
  rw [List.takeWhile_eq_self_iff]
  intro b hb
  rw [bne_iff_ne]
  rintro rfl
  contradiction

theorem result_byByte_of_spells (h : m.Spells a bs) (left : Nat) :
    (byByte a (bs.length + left)).result m =
      if 0 ∈ bs then .ok (bs.takeWhile (· != 0))
      else (byByte.go a bs.length left bs.toArray).result m := by
  have h' : m.Spells (a + 0) bs := by
    rw [Address.add_zero]
    exact h
  unfold byByte
  rw [byByte.result_go_of_spells h']
  simp

theorem result_byByte_of_end (h : m.Spells a bs) {max : Nat} (hle : bs.length ≤ max)
    (hend : 0 ∉ bs → bs.length = max) : (byByte a max).result m = .ok (bs.takeWhile (· != 0)) := by
  rcases Nat.exists_eq_add_of_le hle with ⟨left, rfl⟩
  rw [result_byByte_of_spells h]
  split
  . rfl
  . next hzero =>
    have hleft : left = 0 := by
      have := hend hzero
      omega
    rw [hleft, takeWhile_of_not_mem hzero]
    rfl

theorem takeWhile_take (bs : List UInt8) :
    (bs.take ((bs.takeWhile (· != 0)).length + 1)).takeWhile (· != 0) = bs.takeWhile (· != 0) := by
  induction bs with
  | nil => rfl
  | cons b bs ih =>
    rw [List.take_succ_cons, List.takeWhile_cons, List.takeWhile_cons]
    split
    . rw [List.length_cons, ih]
    . rfl

theorem result_byByte_ne_iff (hm : m.Exact) (h : m.Spells a bs) (hpos : bs ≠ [])
    (hzero : 0 ∉ bs) (left : Nat) :
    (byByte a (bs.length + (left + 1))).result m ≠ .ok bs ↔
      ∃ b, b ≠ 0 ∧ m.read (a + bs.length) 1 = some [b] := by
  have hlen : bs.length ≠ 0 := by
    rw [ne_eq, List.length_eq_zero_iff]
    exact hpos
  rw [result_byByte_of_spells h, if_neg hzero, byByte.result_go_succ]
  cases hread : m.read (a + bs.length) 1 with
  | none => simp [hpos]
  | some cs =>
    rcases List.length_eq_one_iff.mp (hm _ _ _ hread) with ⟨b, rfl⟩
    by_cases hb : b = 0
    . simp [hb]
    . simp only [List.head?_cons, Option.some.injEq, hb, if_false]
      constructor
      . intro _
        exact ⟨b, hb, rfl⟩
      . intro _ heq
        have hprefix := (byByte.isPrefix_go heq).length_le
        simp only [Array.toList_appendList, List.length_append, List.length_singleton] at hprefix
        omega

end CString

namespace Snapshot

variable {s : Snapshot} {a : Address} {max : Nat}

/--
The number of bytes, with the zero, that a string takes up in the region of its first byte.
-/
def reach (s : Snapshot) (a : Address) (max : Nat) : Nat :=
  match s.cString a max with
  | .ok bytes => min (bytes.length + 1) (min max ((Frame.room s.frames a).getD 0))
  | .error _ => 0

/--
The bytes that a string takes up in the region of its first byte are the ones that are read alone at
their addresses. No later region covers any, and none is beyond the top of the address space.
-/
def Exposed (s : Snapshot) (a : Address) (max : Nat) : Prop :=
  ∀ i < s.reach a max, Frame.spot s.frames (a + i) = (Frame.spot s.frames a).map (·.move i)

instance (s : Snapshot) (a : Address) (max : Nat) : Decidable (s.Exposed a max) :=
  inferInstanceAs (Decidable (∀ i < _, _))

/--
The part of a range that is in the region of its first byte, if this byte is in a region.
-/
def within (s : Snapshot) (a : Address) (n : Nat) : Nat :=
  match Frame.room s.frames a with
  | some k => min n k
  | none => n

/--
Fewer bytes than a string may have are left in the region of its first byte, none of them is a zero,
and behind them another byte can be read that is no zero either.
-/
def RunsOn (s : Snapshot) (a : Address) (max : Nat) : Prop :=
  ∃ k, Frame.room s.frames a = some k ∧ k < max ∧ (∀ i < k, s.read (a + i) 1 ≠ some [0]) ∧
    ∃ b, b ≠ 0 ∧ s.read (a + k) 1 = some [b]

theorem exists_window {p : Spot} (hspot : Frame.spot s.frames a = some p) (max : Nat) :
    ∃ (k : Nat) (window : List UInt8), Frame.room s.frames a = some k ∧ 0 < k ∧
      window.length = min max k ∧
      s.cString a max = .ok (window.takeWhile (· != 0)) ∧
      ∀ i (h : i < window.length), Region.cell s.regions (p.move i) = some window[i] := by
  rcases s with ⟨t, rs⟩
  rcases locate_eq_some (t := t) hspot with ⟨r, hlocate, hlt, hroom, hcell⟩
  refine ⟨r.bytes.size - p.offset, r.window p.offset max, hroom, by omega, ?_, ?_, ?_⟩
  . rw [Region.window_eq, List.length_take, List.length_drop, Array.length_toList]
  . unfold cString
    rw [hlocate]
  . intro i hi
    have hmax : i < max := by
      rw [Region.window_eq, List.length_take] at hi
      omega
    rw [hcell, ← Array.getElem?_toList, ← List.getElem?_drop, ← List.getElem?_take_of_lt hmax,
      ← Region.window_eq, List.getElem?_eq_getElem]

theorem exists_spells {p : Spot} (hspot : Frame.spot s.frames a = some p) (h : s.Exposed a max) :
    ∃ k bs, Frame.room s.frames a = some k ∧ 0 < k ∧ bs.length ≤ min max k ∧
      (0 ∉ bs → bs.length = min max k) ∧ s.memory.Spells a bs ∧
      s.cString a max = .ok (bs.takeWhile (· != 0)) := by
  rcases exists_window hspot max with ⟨k, window, hroom, hpos, hsize, hstring, hcell⟩
  have htake := CString.takeWhile_take window
  generalize hlength : (window.takeWhile (· != 0)).length = length at htake
  have hreach : s.reach a max = min (length + 1) window.length := by
    unfold reach
    rw [hstring, hroom, hsize, ← hlength]
    rfl
  refine ⟨k, window.take (length + 1), hroom, hpos, ?_, ?_, ?_, ?_⟩
  . rw [List.length_take, ← hsize]
    apply Nat.min_le_right
  . intro hzero
    -- without a zero all of these bytes belong to the string, so it fills the window
    rw [CString.takeWhile_of_not_mem hzero] at htake
    have hall := congrArg List.length htake
    rw [List.length_take, hlength] at hall
    rw [List.length_take, ← hsize]
    omega
  . intro i hi
    rw [List.length_take] at hi
    show s.read (a + i) 1 = some [_]
    rw [read_one_iff]
    refine ⟨p.move i, ?_, ?_⟩
    . rw [h i (by rw [hreach]; exact hi), hspot]
      rfl
    . rw [List.getElem_take, hcell i (by omega)]
  . rw [hstring, htake]

theorem runsOn_iff {k : Nat} {bs : List UInt8} (hroom : Frame.room s.frames a = some k)
    (hle : bs.length ≤ min max k) (hend : 0 ∉ bs → bs.length = min max k)
    (hspells : s.memory.Spells a bs) :
    s.RunsOn a max ↔ k < max ∧ 0 ∉ bs ∧ ∃ b, b ≠ 0 ∧ s.read (a + k) 1 = some [b] := by
  have hzero (hlt : k < max) : (∀ i < k, s.read (a + i) 1 ≠ some [0]) ↔ 0 ∉ bs := by
    constructor
    . intro h hmem
      rcases List.mem_iff_getElem.mp hmem with ⟨i, hi, hb⟩
      have hread := hspells i hi
      rw [hb] at hread
      apply h i (by omega) hread
    . intro h i hi hread
      have hlen := hend h
      have hread' := hspells i (by omega)
      rw [show s.memory.read (a + i) 1 = _ from hread] at hread'
      injection hread' with hread'
      injection hread' with hread'
      apply h
      rw [hread']
      apply List.getElem_mem
  unfold RunsOn
  rw [hroom]
  simp only [Option.some.injEq, exists_eq_left']
  apply and_congr_right
  intro hlt
  rw [hzero hlt]

theorem cString_of_spot_eq_none (h : Frame.spot s.frames a = none) :
    s.cString a max = .error (.readFailed a 1) := by
  have hlocate : s.locate a = none := locate_eq_none h
  unfold cString
  rw [hlocate]

theorem read_of_spot_eq_none (h : Frame.spot s.frames a = none) : s.read a 1 = none := by
  have hlocate : s.locate a = none := locate_eq_none h
  unfold read
  rw [hlocate]
  rfl

/--
The string that an image reads is the one that is read a byte at a time from the region alone, if
there is a first byte to be read. A string that is read a byte at a time from all regions is another
one only if it goes on behind the region.
-/
theorem cString_eq_byByte (hfirst : 0 < max ∨ (s.read a 1).isSome) (h : s.Exposed a max) :
    s.cString a max = (CString.byByte a (s.within a max)).result s.memory ∧
      (s.cString a max ≠ (CString.byByte a max).result s.memory ↔ s.RunsOn a max) := by
  cases hspot : Frame.spot s.frames a with
  | none =>
    have hread := read_of_spot_eq_none hspot
    have hroom := Frame.room_eq_none hspot
    have hmax : 0 < max := hfirst.resolve_right (by rw [hread]; simp)
    rcases Nat.exists_eq_add_one.mpr hmax with ⟨left, rfl⟩
    have hbytes : (CString.byByte a (left + 1)).result s.memory = .error (.readFailed a 1) := by
      unfold CString.byByte
      rw [CString.byByte.result_go_succ, Address.add_zero,
        show s.memory.read a 1 = none from hread]
      rfl
    simp [cString_of_spot_eq_none hspot, within, RunsOn, hroom, hbytes]
  | some p =>
    rcases exists_spells hspot h with ⟨k, bs, hroom, hpos, hle, hend, hspells, hstring⟩
    have hwithin : s.within a max = min max k := by
      rw [within, hroom]
    constructor
    . rw [hstring, hwithin, CString.result_byByte_of_end hspells hle hend]
    . rw [hstring, runsOn_iff hroom hle hend hspells]
      by_cases hzero : 0 ∈ bs
      . rw [CString.result_byByte_of_end hspells (by omega) fun h => absurd hzero h]
        simp [hzero]
      . have hlen := hend hzero
        by_cases hlt : k < max
        . rcases Nat.exists_eq_add_of_lt hlt with ⟨left, hmax⟩
          have hk : bs.length = k := by omega
          subst hk
          have hne : bs ≠ [] := List.ne_nil_of_length_pos hpos
          rw [CString.takeWhile_of_not_mem hzero, ne_comm, hmax, Nat.add_assoc,
            CString.result_byByte_ne_iff s.exact_memory hspells hne hzero, ← Nat.add_assoc, ← hmax]
          simp only [hlt, hzero, not_false_eq_true, true_and]
          rfl
        . rw [CString.result_byByte_of_end hspells (by omega) fun _ => by omega]
          simp [hlt]

theorem cString_eq_byByte_before_zero :
    let s : Snapshot := ⟨.native, [⟨⟨0x1002⟩, #[0, 0x63]⟩, ⟨⟨0x1000⟩, #[0x61, 0x62]⟩]⟩
    (0 < 9 ∨ (s.read ⟨0x1000⟩ 1).isSome) ∧ s.Exposed ⟨0x1000⟩ 9 ∧
      s.cString ⟨0x1000⟩ 9 = (CString.byByte ⟨0x1000⟩ 2).result s.memory ∧
      (s.cString ⟨0x1000⟩ 9 ≠ (CString.byByte ⟨0x1000⟩ 9).result s.memory ↔
        s.RunsOn ⟨0x1000⟩ 9) := by
  intro s
  have hfirst : 0 < 9 ∨ (s.read ⟨0x1000⟩ 1).isSome := Or.inl (by decide)
  have h : s.Exposed ⟨0x1000⟩ 9 := by decide +kernel
  have hboth := cString_eq_byByte hfirst h
  exact ⟨hfirst, h, hboth.1, hboth.2⟩

/--
Behind its region a string goes on only if it is read a byte at a time. The same reads find a later
region over the string, stop at the top of the address space, and want no readable byte if they want
no byte at all.
-/
theorem cString_ne_byByte :
    let adjacent : Snapshot := ⟨.native, [⟨⟨0x1002⟩, #[0x63, 0x64]⟩, ⟨⟨0x1000⟩, #[0x61, 0x62]⟩]⟩
    let covered : Snapshot := ⟨.native, [⟨⟨0x1001⟩, #[0x63]⟩, ⟨⟨0x1000⟩, #[0x61, 0x62]⟩]⟩
    let topmost : Snapshot := ⟨.native, [⟨⟨0xFFFFFFFFFFFFFFFF⟩, #[0x61, 0x62]⟩]⟩
    (adjacent.cString ⟨0x1000⟩ 4 = .ok [0x61, 0x62] ∧
      (CString.byByte ⟨0x1000⟩ 4).result adjacent.memory = .ok [0x61, 0x62, 0x63, 0x64]) ∧
    (covered.cString ⟨0x1000⟩ 2 = .ok [0x61, 0x62] ∧
      (CString.byByte ⟨0x1000⟩ 2).result covered.memory = .ok [0x61, 0x63]) ∧
    (topmost.cString ⟨0xFFFFFFFFFFFFFFFF⟩ 2 = .ok [0x61, 0x62] ∧
      (CString.byByte ⟨0xFFFFFFFFFFFFFFFF⟩ 2).result topmost.memory = .ok [0x61]) ∧
    (adjacent.cString ⟨0x2000⟩ 0 = .error (.readFailed ⟨0x2000⟩ 1) ∧
      (CString.byByte ⟨0x2000⟩ 0).result adjacent.memory = .ok []) := by
  refine ⟨⟨?_, ?_⟩, ⟨?_, ?_⟩, ⟨?_, ?_⟩, ⟨?_, ?_⟩⟩ <;> rfl

end Snapshot

end LuaScope
