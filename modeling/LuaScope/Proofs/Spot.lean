import LuaScope.Proofs.Image

/-!
This module contains the spots in which an image keeps its bytes. A spot is a region and an offset
in it. A range is read from consecutive spots of the region that its first byte is read from, and it
is written to them.
-/

namespace LuaScope

def Memory.Exact (m : Memory) : Prop :=
  ∀ a n bs, m.read a n = some bs → bs.length = n

structure Frame where
  start : Address
  size : Nat
  deriving DecidableEq

structure Spot where
  /-- The number of older regions. -/
  region : Nat
  offset : Nat
  deriving DecidableEq

def Spot.move (p : Spot) (i : Nat) : Spot :=
  ⟨p.region, p.offset + i⟩

namespace Frame

def index? (f : Frame) (x : Address) : Option Nat :=
  let i := x.toNat - f.start.toNat
  if f.start.toNat ≤ x.toNat ∧ i < f.size then some i else none

theorem index?_eq_some_iff {f : Frame} {x : Address} {i : Nat} :
    f.index? x = some i ↔ x.toNat = f.start.toNat + i ∧ i < f.size := by
  simp only [index?, Option.ite_none_right_eq_some, Option.some.injEq]
  omega

def spot : List Frame → Address → Option Spot
  | [], _ => none
  | f :: fs, x =>
    match f.index? x with
    | some i => some ⟨fs.length, i⟩
    | none => spot fs x

def addressOf : List Frame → Spot → Option Nat
  | [], _ => none
  | f :: fs, p => if p.region = fs.length then some (f.start.toNat + p.offset) else addressOf fs p

theorem region_lt_of_addressOf {fs : List Frame} {p : Spot} {n : Nat}
    (h : addressOf fs p = some n) : p.region < fs.length := by
  induction fs with
  | nil => contradiction
  | cons f fs ih =>
    unfold addressOf at h
    rw [List.length_cons]
    split at h
    . omega
    . have := ih h
      omega

theorem addressOf_cons {f : Frame} {fs : List Frame} {p : Spot} {n : Nat}
    (h : addressOf fs p = some n) : addressOf (f :: fs) p = some n := by
  have hlt := region_lt_of_addressOf h
  unfold addressOf
  rw [if_neg (by omega), h]

theorem addressOf_spot {fs : List Frame} {x : Address} {p : Spot} (h : spot fs x = some p)
    (i : Nat) :
    addressOf fs (p.move i) = some (x.toNat + i) := by
  induction fs with
  | nil => contradiction
  | cons f fs ih =>
    unfold spot at h
    split at h
    . next j hj =>
      rw [index?_eq_some_iff] at hj
      injection h with h
      subst h
      rw [addressOf, Spot.move, if_pos rfl, hj.1, Nat.add_assoc]
    . apply addressOf_cons (ih h)

theorem region_lt_of_spot {fs : List Frame} {x : Address} {p : Spot} (h : spot fs x = some p) :
    p.region < fs.length :=
  region_lt_of_addressOf (addressOf_spot h 0)

def room : List Frame → Address → Option Nat
  | [], _ => none
  | f :: fs, x =>
    match f.index? x with
    | some i => some (f.size - i)
    | none => room fs x

theorem room_eq_none {fs : List Frame} {x : Address} (h : spot fs x = none) :
    room fs x = none := by
  induction fs with
  | nil => rfl
  | cons f fs ih =>
    unfold spot at h
    unfold room
    split at h
    . contradiction
    . apply ih h

end Frame

namespace Region

def frame (r : Region) : Frame :=
  ⟨r.base, r.bytes.size⟩

theorem offset?_eq (r : Region) (x : Address) : r.offset? x = r.frame.index? x := rfl

def cell : List Region → Spot → Option UInt8
  | [], _ => none
  | r :: rs, p => if p.region = rs.length then r.bytes[p.offset]? else cell rs p

theorem region_lt_of_cell {rs : List Region} {p : Spot} {b : UInt8} (h : cell rs p = some b) :
    p.region < rs.length := by
  induction rs with
  | nil => contradiction
  | cons r rs ih =>
    unfold cell at h
    rw [List.length_cons]
    split at h
    . omega
    . have := ih h
      omega

end Region

namespace Snapshot

def frames (s : Snapshot) : List Frame :=
  s.regions.map Region.frame

theorem locate_eq_none {t : Target} {rs : List Region} {a : Address}
    (h : Frame.spot (rs.map Region.frame) a = none) : (Snapshot.mk t rs).locate a = none := by
  induction rs with
  | nil => rfl
  | cons r rs ih =>
    simp only [List.map_cons, Frame.spot] at h
    split at h
    . contradiction
    . next hindex =>
      unfold locate at ih ⊢
      rw [List.findSome?_cons, Region.offset?_eq, hindex]
      apply ih h

theorem locate_eq_some {t : Target} {rs : List Region} {a : Address} {p : Spot}
    (h : Frame.spot (rs.map Region.frame) a = some p) :
    ∃ r, (Snapshot.mk t rs).locate a = some (r, p.offset) ∧ p.offset < r.bytes.size ∧
      Frame.room (rs.map Region.frame) a = some (r.bytes.size - p.offset) ∧
      ∀ i, Region.cell rs (p.move i) = r.bytes[p.offset + i]? := by
  induction rs with
  | nil => contradiction
  | cons r rs ih =>
    simp only [List.map_cons, Frame.spot] at h
    unfold locate at ih ⊢
    rw [List.findSome?_cons, Region.offset?_eq, List.map_cons, Frame.room]
    split at h
    . next i hindex =>
      rw [hindex]
      injection h with h
      subst h
      rw [Frame.index?_eq_some_iff] at hindex
      refine ⟨r, rfl, hindex.2, rfl, ?_⟩
      intro i
      rw [Region.cell, Spot.move, if_pos (by simp)]
    . next hindex =>
      rw [hindex]
      rcases ih h with ⟨q, hlocate, hlt, hroom, hcell⟩
      refine ⟨q, hlocate, hlt, hroom, ?_⟩
      intro i
      have hregion := Frame.region_lt_of_spot h
      rw [List.length_map] at hregion
      rw [Region.cell, if_neg, hcell]
      simp only [Spot.move]
      omega

theorem read_of_pos {s : Snapshot} {a : Address} {n : Nat} {bs : List UInt8} (hn : 0 < n)
    (h : s.read a n = some bs) :
    ∃ p, Frame.spot s.frames a = some p ∧ bs.length = n ∧
      ∀ i < n, bs[i]? = Region.cell s.regions (p.move i) := by
  rcases s with ⟨t, rs⟩
  rw [read, if_neg (by omega)] at h
  cases hspot : Frame.spot (rs.map Region.frame) a with
  | none =>
    rw [locate_eq_none hspot] at h
    contradiction
  | some p =>
    rcases locate_eq_some (t := t) hspot with ⟨r, hlocate, hlt, hroom, hcell⟩
    rw [hlocate] at h
    simp only [Option.ite_none_right_eq_some, Option.some.injEq, Region.window_eq] at h
    rcases h with ⟨hfits, rfl⟩
    refine ⟨p, hspot, ?_, ?_⟩
    . rw [List.length_take, List.length_drop, Array.length_toList]
      omega
    . intro i hi
      rw [hcell, List.getElem?_take_of_lt hi, List.getElem?_drop, Array.getElem?_toList]

theorem length_read {s : Snapshot} {a : Address} {n : Nat} {bs : List UInt8}
    (h : s.read a n = some bs) : bs.length = n := by
  cases Nat.eq_zero_or_pos n with
  | inl hzero =>
    rw [read, if_pos hzero] at h
    injection h with h
    rw [← h, hzero]
    rfl
  | inr hpos =>
    rcases read_of_pos hpos h with ⟨p, hspot, hlen, hcell⟩
    exact hlen

theorem exact_memory (s : Snapshot) : s.memory.Exact :=
  fun _ _ _ h => length_read h

theorem isSome_read {s : Snapshot} {a : Address} {n : Nat} :
    (s.read a n).isSome ↔ n = 0 ∨ ∃ k, Frame.room s.frames a = some k ∧ n ≤ k := by
  rcases s with ⟨t, rs⟩
  unfold read frames
  split
  . next hzero => simp [hzero]
  . next hpos =>
    cases hspot : Frame.spot (rs.map Region.frame) a with
    | none =>
      rw [locate_eq_none hspot, Frame.room_eq_none hspot]
      simp [hpos]
    | some p =>
      rcases locate_eq_some (t := t) hspot with ⟨r, hlocate, hlt, hroom, hcell⟩
      simp only [hlocate, hroom, hpos, false_or, Option.some.injEq, exists_eq_left']
      split
      . simp
        omega
      . simp
        omega

theorem read_one_iff {s : Snapshot} {x : Address} {b : UInt8} :
    s.read x 1 = some [b] ↔
      ∃ p, Frame.spot s.frames x = some p ∧ Region.cell s.regions p = some b := by
  constructor
  . intro h
    rcases read_of_pos (by omega) h with ⟨p, hspot, hlen, hcell⟩
    exact ⟨p, hspot, (hcell 0 (by omega)).symm⟩
  . intro h
    rcases h with ⟨p, hspot, hcell⟩
    rcases s with ⟨t, rs⟩
    rcases locate_eq_some (t := t) hspot with ⟨r, hlocate, hlt, hroom, hbytes⟩
    have hread : ((Snapshot.mk t rs).read x 1).isSome := by
      rw [isSome_read]
      exact Or.inr ⟨_, hroom, by omega⟩
    rcases Option.isSome_iff_exists.mp hread with ⟨bs, hbs⟩
    rcases read_of_pos (by omega) hbs with ⟨q, hq, hlen, hfirst⟩
    have hsame : some q = some p := hq.symm.trans hspot
    injection hsame with hsame
    rcases List.length_eq_one_iff.mp hlen with ⟨b', rfl⟩
    have hb := hfirst 0 (by omega)
    rw [hsame] at hb
    rw [hbs]
    have hb' : some b' = some b := hb.trans hcell
    injection hb' with hb'
    rw [hb']

end Snapshot

namespace Region

theorem getElem?_overwrite {r : Region} {offset : Nat} {data : List UInt8}
    (h : offset + data.length ≤ r.bytes.size) (j : Nat) :
    (r.overwrite offset data).bytes[j]? =
      if offset ≤ j ∧ j < offset + data.length then data[j - offset]? else r.bytes[j]? := by
  have hbefore : (r.bytes.extract 0 offset).size = offset := by
    rw [Array.size_extract]
    omega
  have hdata : data.toArray.size = data.length := List.size_toArray
  simp only [overwrite]
  rw [Array.getElem?_append, Array.size_append, hbefore, hdata, Array.getElem?_append, hbefore]
  by_cases hlow : j < offset
  . rw [if_pos (by omega), if_pos hlow, if_neg (by omega), Array.getElem?_extract]
    simp only [Nat.zero_add]
    rw [if_pos (by omega)]
  . by_cases hhigh : j < offset + data.length
    . rw [if_pos hhigh, if_neg hlow, if_pos (by omega)]
      simp
    . rw [if_neg hhigh, if_neg (by omega), Array.getElem?_extract, Nat.add_sub_cancel' (by omega)]
      split
      . rfl
      . rw [Array.getElem?_eq_none (by omega)]

end Region

namespace Snapshot

theorem writeRegions_spec {a : Address} {data : List UInt8} {rs rs' : List Region}
    (h : writeRegions a data rs = some rs') :
    ∃ p, Frame.spot (rs.map Region.frame) a = some p ∧
      rs'.map Region.frame = rs.map Region.frame ∧
      (∀ i < data.length, Region.cell rs' (p.move i) = data[i]?) ∧
      ∀ q, (∀ i < data.length, q ≠ p.move i) → Region.cell rs' q = Region.cell rs q := by
  -- the first region that has the address takes all bytes, and the regions before it stay
  induction rs generalizing rs' with
  | nil => contradiction
  | cons r rs ih =>
    unfold writeRegions at h
    split at h
    . next o hoffset =>
      split at h
      . next hfits =>
        injection h with h
        subst h
        rw [Region.offset?_eq] at hoffset
        refine ⟨⟨(rs.map Region.frame).length, o⟩, ?_, ?_, ?_, ?_⟩
        . rw [List.map_cons, Frame.spot, hoffset]
        . rw [List.map_cons, List.map_cons]
          unfold Region.frame
          rw [Region.size_overwrite hfits]
          rfl
        . intro i hi
          rw [Region.cell, if_pos (by simp [Spot.move]), Region.getElem?_overwrite hfits]
          simp [Spot.move, hi]
        . intro q hq
          unfold Region.cell
          split
          . next hregion =>
            rw [Region.getElem?_overwrite hfits, if_neg]
            intro hwithin
            apply hq (q.offset - o) (by omega)
            rcases q with ⟨k, j⟩
            simp only [Spot.move, Spot.mk.injEq, List.length_map] at hregion hwithin ⊢
            omega
          . rfl
      . contradiction
    . next hoffset =>
      rw [Option.map_eq_some_iff] at h
      rcases h with ⟨rest, hrest, rfl⟩
      rcases ih hrest with ⟨p, hspot, hframe, hput, hkeep⟩
      have hlen : rest.length = rs.length := by
        rw [← List.length_map Region.frame, hframe, List.length_map]
      have hregion := Frame.region_lt_of_spot hspot
      rw [List.length_map] at hregion
      rw [Region.offset?_eq] at hoffset
      refine ⟨p, ?_, ?_, ?_, ?_⟩
      . rw [List.map_cons, Frame.spot, hoffset]
        exact hspot
      . rw [List.map_cons, List.map_cons, hframe]
      . intro i hi
        rw [Region.cell, if_neg]
        . apply hput i hi
        . simp only [Spot.move]
          omega
      . intro q hq
        unfold Region.cell
        rw [hlen, hkeep q hq]

theorem isSome_writeRegions (a : Address) (data : List UInt8) (rs : List Region) :
    (writeRegions a data rs).isSome ↔
      ∃ k, Frame.room (rs.map Region.frame) a = some k ∧ data.length ≤ k := by
  induction rs with
  | nil => simp [writeRegions, Frame.room]
  | cons r rs ih =>
    unfold writeRegions
    rw [List.map_cons, Frame.room, Region.offset?_eq]
    cases hindex : r.frame.index? a with
    | none =>
      simp only [Option.isSome_map]
      exact ih
    | some i =>
      rw [Frame.index?_eq_some_iff] at hindex
      simp only [Option.some.injEq, exists_eq_left']
      have : r.frame.size = r.bytes.size := rfl
      split <;> simp <;> omega

end Snapshot

end LuaScope
