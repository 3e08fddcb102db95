import Mathlib.Data.List.Basic
import LuaScope.Poke
import LuaScope.Proofs.Spot

/-!
This module contains the proof of what is read after a write. A write changes the spots that its own
range is read from and no region's place or size, so that the range reads back as it was written, a
range without a byte in common reads as before, and what was readable stays so.
-/

namespace LuaScope

namespace Snapshot

variable {s s' : Snapshot} {a b : Address} {n : Nat} {data bs : List UInt8} {rs : List Region}

theorem isSome_read_congr (h : s'.frames = s.frames) (a : Address) (n : Nat) :
    (s'.read a n).isSome ↔ (s.read a n).isSome := by
  rw [isSome_read, isSome_read, h]

theorem read_of_cells (hframes : s'.frames = s.frames)
    (hcells : ∀ p, Frame.spot s.frames a = some p →
      ∀ i < n, Region.cell s'.regions (p.move i) = Region.cell s.regions (p.move i))
    (h : s.read a n = some bs) : s'.read a n = some bs := by
  have hsome : (s'.read a n).isSome := by
    rw [isSome_read_congr hframes, h]
    rfl
  rcases Option.isSome_iff_exists.mp hsome with ⟨bs', hbs'⟩
  rw [hbs', Option.some.injEq]
  cases Nat.eq_zero_or_pos n with
  | inl hzero =>
    have hlen := length_read h
    have hlen' := length_read hbs'
    rw [hzero, List.length_eq_zero_iff] at hlen hlen'
    rw [hlen, hlen']
  | inr hpos =>
    rcases read_of_pos hpos h with ⟨p, hspot, hlen, hbytes⟩
    rcases read_of_pos hpos hbs' with ⟨q, hq, hlen', hbytes'⟩
    rw [hframes, hspot] at hq
    injection hq with hq
    subst hq
    apply List.ext_getElem?'
    intro i hi
    have hi : i < n := by omega
    rw [hbytes i hi, hbytes' i hi, hcells p hspot i hi]

theorem read_congr (hframes : s'.frames = s.frames)
    (hcells : ∀ p, Frame.spot s.frames a = some p →
      ∀ i < n, Region.cell s'.regions (p.move i) = Region.cell s.regions (p.move i)) :
    s'.read a n = s.read a n := by
  apply Option.ext
  intro bs
  constructor
  . apply read_of_cells hframes.symm
    intro p hp i hi
    rw [hframes] at hp
    apply (hcells p hp i hi).symm
  . apply read_of_cells hframes hcells

theorem frames_of_writeRegions (h : writeRegions a data s.regions = some rs) :
    (Snapshot.mk s.target rs).frames = s.frames := by
  rcases writeRegions_spec h with ⟨p, hspot, hframes, hput, hkeep⟩
  exact hframes

theorem isSome_writeRegions_iff_read (s : Snapshot) (a : Address) (hdata : data ≠ []) :
    (writeRegions a data s.regions).isSome ↔ (s.read a data.length).isSome := by
  have hlen : data.length ≠ 0 := by
    rw [ne_eq, List.length_eq_zero_iff]
    exact hdata
  rw [isSome_writeRegions, isSome_read]
  simp only [hlen, false_or]
  rfl

theorem read_written (hdata : data ≠ []) (h : writeRegions a data s.regions = some rs) :
    (Snapshot.mk s.target rs).read a data.length = some data := by
  have hpos : 0 < data.length := List.length_pos_iff.mpr hdata
  have hsome : ((Snapshot.mk s.target rs).read a data.length).isSome := by
    rw [isSome_read_congr (frames_of_writeRegions h), ← isSome_writeRegions_iff_read s a hdata, h]
    rfl
  rcases Option.isSome_iff_exists.mp hsome with ⟨bs, hbs⟩
  rcases read_of_pos hpos hbs with ⟨q, hq, hlen, hbytes⟩
  rcases writeRegions_spec h with ⟨p, hspot, hframes, hput, hkeep⟩
  rw [frames_of_writeRegions h, frames, hspot] at hq
  injection hq with hq
  subst hq
  rw [hbs, Option.some.injEq]
  apply List.ext_getElem?'
  intro i hi
  have hi : i < data.length := by omega
  rw [hbytes i hi, hput i hi]

theorem read_of_disjoint (h : writeRegions a data s.regions = some rs)
    (hdisjoint : ∀ i < n, ∀ j < data.length, b.toNat + i ≠ a.toNat + j) :
    (Snapshot.mk s.target rs).read b n = s.read b n := by
  rcases writeRegions_spec h with ⟨p, hspot, hframes, hput, hkeep⟩
  apply read_congr (frames_of_writeRegions h)
  intro q hq i hi
  apply hkeep
  intro j hj heq
  -- a spot has one address only, in numbers that go on beyond the top of the address space
  have hb := Frame.addressOf_spot hq i
  rw [heq] at hb
  have ha := Frame.addressOf_spot hspot j
  rw [show s.frames = s.regions.map Region.frame from rfl, ha] at hb
  injection hb with hb
  apply hdisjoint i hi j hj hb.symm

end Snapshot

namespace Poke

theorem run_cases (s : Snapshot) {a : Address} {data : List UInt8} (hdata : data ≠ []) :
    (∃ rs, Snapshot.writeRegions a data s.regions = some rs ∧ (s.read a data.length).isSome ∧
      run s (.ok ⟨a, data⟩) = ⟨.ok (), ⟨s.target, rs⟩, [⟨a, data⟩]⟩) ∨
    s.read a data.length = none ∧
      run s (.ok ⟨a, data⟩) = ⟨.error (.writeFailed a data.length), s, [⟨a, data⟩]⟩ := by
  have hsome := Snapshot.isSome_writeRegions_iff_read s a hdata
  unfold run Snapshot.writeBytes
  simp only [hdata, if_false]
  cases hwrite : Snapshot.writeRegions a data s.regions with
  | some rs =>
    rw [hwrite] at hsome
    exact Or.inl ⟨rs, rfl, hsome.mp rfl, rfl⟩
  | none =>
    rw [hwrite] at hsome
    refine Or.inr ⟨?_, rfl⟩
    rw [← Option.not_isSome_iff_eq_none, ← hsome]
    exact Bool.false_ne_true

theorem reads_after_write (s : Snapshot) (a : Address) {data : List UInt8} (hdata : data ≠ []) :
    let done := run s (.ok ⟨a, data⟩)
    (done.result = .ok () ↔ (s.read a data.length).isSome) ∧
    (done.result ≠ .ok () →
      done.result = .error (.writeFailed a data.length) ∧ done.image = s) ∧
    (done.result = .ok () → done.image.read a data.length = some data ∧
      ∀ b n, (∀ i < n, ∀ j < data.length, b.toNat + i ≠ a.toNat + j) →
        done.image.read b n = s.read b n) ∧
    ∀ b n, (done.image.read b n).isSome ↔ (s.read b n).isSome := by
  intro done
  rcases run_cases s (a := a) hdata with ⟨rs, hwrite, hread, hrun⟩ | ⟨hread, hrun⟩
  . have hdone : done = _ := hrun
    rw [hdone]
    refine ⟨?_, ?_, ?_, ?_⟩
    . simp [hread]
    . intro hfailed
      contradiction
    . intro _
      constructor
      . apply Snapshot.read_written hdata hwrite
      . intro b n hdisjoint
        apply Snapshot.read_of_disjoint hwrite hdisjoint
    . apply Snapshot.isSome_read_congr
      apply Snapshot.frames_of_writeRegions hwrite
  . have hdone : done = _ := hrun
    rw [hdone]
    refine ⟨?_, ?_, ?_, ?_⟩
    . simp [hread]
    . intro _
      exact ⟨rfl, rfl⟩
    . intro hok
      contradiction
    . intro b n
      rfl

theorem reads_after_write_at_top :
    let s : Snapshot := ⟨.native, [⟨⟨0xFFFFFFFFFFFFFFFE⟩, #[0, 0, 0, 0]⟩, ⟨⟨0⟩, #[7]⟩]⟩
    let image := (run s (.ok ⟨⟨0xFFFFFFFFFFFFFFFE⟩, [1, 2, 3]⟩)).image
    image.read ⟨0xFFFFFFFFFFFFFFFE⟩ 3 = some [1, 2, 3] ∧ image.read ⟨0⟩ 1 = s.read ⟨0⟩ 1 ∧
      (image.read ⟨0xFFFFFFFFFFFFFFFF⟩ 3).isSome := by
  intro s image
  have h := reads_after_write s ⟨0xFFFFFFFFFFFFFFFE⟩ (show [1, 2, 3] ≠ [] by decide)
  rcases h with ⟨hok, -, hread, hsome⟩
  rcases hread (hok.mpr (by decide)) with ⟨hwritten, hothers⟩
  refine ⟨hwritten, hothers ⟨0⟩ 1 (by decide), ?_⟩
  apply (hsome ⟨0xFFFFFFFFFFFFFFFF⟩ 3).mpr (by decide)

end Poke

end LuaScope
