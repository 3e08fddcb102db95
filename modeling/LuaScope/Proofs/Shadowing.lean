import LuaScope.Proofs.Spot

/-!
This module contains what reads of an image have to do with the calls that made it. The law is that
a byte is the one that was put at its address last. It holds for a range whatever the bytes are
exactly if no region or write that came later lies over a part of the range without replacing what
the range is read from. Histories are lists of calls, of which the last one comes first.
-/

namespace LuaScope

inductive Change where
  | region (base : Address) (bytes : List UInt8)
  | write (address : Address) (data : List UInt8)
  deriving DecidableEq

structure Shape where
  isRegion : Bool
  frame : Frame
  deriving DecidableEq

namespace Shape

def frames : List Shape → List Frame
  | [] => []
  | c :: cs => if c.isRegion then c.frame :: frames cs else frames cs

/--
The spot that a byte of a change is put into. A write goes to the region of its first byte.
-/
def landing (fs : List Frame) (c : Shape) (i : Nat) : Option Spot :=
  if c.isRegion then some ⟨fs.length, i⟩ else (Frame.spot fs c.frame.start).map (·.move i)

def lastPut : List Shape → Address → Option Spot
  | [], _ => none
  | c :: cs, x =>
    match c.frame.index? x with
    | some i => landing (frames cs) c i
    | none => lastPut cs x

/--
A range whose bytes are read alone from the spots that they are read from together, and were put
into these spots last.
-/
def Undivided (cs : List Shape) (a : Address) (n : Nat) : Prop :=
  ∀ i < n, Frame.spot (frames cs) (a + i) = (Frame.spot (frames cs) a).map (·.move i) ∧
    lastPut cs (a + i) = (Frame.spot (frames cs) a).map (·.move i)

instance (cs : List Shape) (a : Address) (n : Nat) : Decidable (Undivided cs a n) :=
  inferInstanceAs (Decidable (∀ i < n, _))

theorem addressOf_landing {fs : List Frame} {c : Shape} {i : Nat} {p : Spot}
    (h : landing fs c i = some p) :
    Frame.addressOf (if c.isRegion then c.frame :: fs else fs) p =
      some (c.frame.start.toNat + i) := by
  unfold landing at h
  split at h
  . next hregion =>
    injection h with h
    subst h
    rw [if_pos hregion, Frame.addressOf, if_pos rfl]
  . next hwrite =>
    rw [if_neg hwrite]
    rcases Option.map_eq_some_iff.mp h with ⟨q, hspot, rfl⟩
    apply Frame.addressOf_spot hspot i

end Shape

namespace Change

def data : Change → List UInt8
  | .region _ bytes => bytes
  | .write _ data => data

def shape : Change → Shape
  | .region base bytes => ⟨true, base, bytes.length⟩
  | .write address data => ⟨false, address, data.length⟩

theorem size_frame_shape (c : Change) : c.shape.frame.size = c.data.length := by
  cases c <;> rfl

def apply (s : Snapshot) : Change → Except Failure Snapshot
  | .region base bytes => .ok (s.addRegion base bytes.toArray)
  | .write address data => s.writeBytes address data

def replay (t : Target) : List Change → Except Failure Snapshot
  | [] => .ok (Snapshot.empty t)
  | c :: cs =>
    match replay t cs with
    | .ok s => c.apply s
    | .error failure => .error failure

def latest : List Change → Address → Option UInt8
  | [], _ => none
  | c :: cs, x =>
    match c.shape.frame.index? x with
    | some i => c.data[i]?
    | none => latest cs x

theorem replay_cons {t : Target} {c : Change} {cs : List Change} {s' : Snapshot}
    (h : replay t (c :: cs) = .ok s') : ∃ s, replay t cs = .ok s ∧ c.apply s = .ok s' := by
  unfold replay at h
  split at h
  . next s hs => exact ⟨s, hs, h⟩
  . contradiction

structure Effect (s s' : Snapshot) (c : Change) : Prop where
  frames : s'.frames = if c.shape.isRegion then c.shape.frame :: s.frames else s.frames
  put : ∀ i < c.data.length, ∃ p, Shape.landing s.frames c.shape i = some p ∧
    Region.cell s'.regions p = c.data[i]?
  keep : ∀ q, (∀ i < c.data.length, Shape.landing s.frames c.shape i ≠ some q) →
    Region.cell s'.regions q = Region.cell s.regions q

theorem effect_addRegion (s : Snapshot) (base : Address) (bytes : List UInt8) :
    Effect s (s.addRegion base bytes.toArray) (.region base bytes) := by
  have hlen : s.frames.length = s.regions.length := List.length_map _
  constructor
  . rfl
  . intro i hi
    refine ⟨⟨s.frames.length, i⟩, rfl, ?_⟩
    rw [Snapshot.addRegion, Region.cell, if_pos hlen]
    apply List.getElem?_toArray
  . intro q hq
    rw [Snapshot.addRegion, Region.cell]
    split
    . next hregion =>
      -- an untouched spot of the new region lies behind its bytes, and there was none before
      have hbehind : bytes.length ≤ q.offset := by
        apply Nat.le_of_not_lt
        intro hlt
        apply hq q.offset hlt
        show some (Spot.mk s.frames.length q.offset) = some q
        rw [hlen, ← hregion]
      have hnone : Region.cell s.regions q = none := by
        rw [Option.eq_none_iff_forall_ne_some]
        intro b hb
        have := Region.region_lt_of_cell hb
        omega
      rw [hnone, List.getElem?_toArray, List.getElem?_eq_none hbehind]
    . rfl

theorem effect_writeRegions {s : Snapshot} {a : Address} {data : List UInt8} {rs : List Region}
    (h : Snapshot.writeRegions a data s.regions = some rs) :
    Effect s { s with regions := rs } (.write a data) := by
  rcases Snapshot.writeRegions_spec h with ⟨p, hspot, hframe, hput, hkeep⟩
  have hlanding (i : Nat) : Shape.landing s.frames (Change.write a data).shape i =
      some (p.move i) := by
    show (Frame.spot s.frames a).map (·.move i) = some (p.move i)
    rw [Snapshot.frames, hspot]
    rfl
  constructor
  . exact hframe
  . intro i hi
    exact ⟨p.move i, hlanding i, hput i hi⟩
  . intro q hq
    apply hkeep q
    intro i hi heq
    apply hq i hi
    rw [hlanding, heq]

theorem effect_of_apply {s s' : Snapshot} {c : Change} (h : c.apply s = .ok s') :
    Effect s s' c := by
  cases c with
  | region base bytes =>
    injection h with h
    rw [← h]
    apply effect_addRegion
  | write a data =>
    change s.writeBytes a data = .ok s' at h
    unfold Snapshot.writeBytes at h
    split at h
    . next hempty =>
      injection h with h
      subst h hempty
      constructor
      . rfl
      . intro i hi
        contradiction
      . intro q hq
        rfl
    . next hdata =>
      split at h
      . next rs hrs =>
        injection h with h
        rw [← h]
        apply effect_writeRegions hrs
      . contradiction

theorem frames_of_replay {t : Target} {cs : List Change} {s : Snapshot}
    (h : replay t cs = .ok s) : s.frames = Shape.frames (cs.map shape) := by
  induction cs generalizing s with
  | nil =>
    injection h with h
    subst h
    rfl
  | cons c cs ih =>
    rcases replay_cons h with ⟨s₀, hs₀, hs⟩
    rw [(effect_of_apply hs).frames, List.map_cons, Shape.frames, ih hs₀]

theorem cell_lastPut {t : Target} {cs : List Change} {s : Snapshot} {x : Address} {p : Spot}
    (h : replay t cs = .ok s) (hp : Shape.lastPut (cs.map shape) x = some p) :
    Frame.addressOf s.frames p = some x.toNat ∧ Region.cell s.regions p = latest cs x := by
  induction cs generalizing s with
  | nil => contradiction
  | cons c cs ih =>
    rcases replay_cons h with ⟨s₀, hs₀, hs⟩
    have heffect := effect_of_apply hs
    rw [List.map_cons, Shape.lastPut, ← frames_of_replay hs₀] at hp
    unfold latest
    split at hp
    . next i hindex =>
      have haddress := Shape.addressOf_landing hp
      rw [Frame.index?_eq_some_iff, size_frame_shape] at hindex
      rcases heffect.put i hindex.2 with ⟨q, hlanding, hcell⟩
      rw [hp] at hlanding
      injection hlanding with hlanding
      subst hlanding
      rw [heffect.frames, haddress, hindex.1]
      exact ⟨rfl, hcell⟩
    . next hindex =>
      rcases ih hs₀ hp with ⟨haddress, hcell⟩
      have haddress' : Frame.addressOf s.frames p = some x.toNat := by
        rw [heffect.frames]
        split
        . apply Frame.addressOf_cons haddress
        . exact haddress
      have hother : ∀ i < c.data.length, Shape.landing s₀.frames c.shape i ≠ some p := by
        -- a change that reached the spot of the byte would have covered its address
        intro i hi hlanding
        have hnew := Shape.addressOf_landing hlanding
        rw [← heffect.frames, haddress'] at hnew
        injection hnew with hnew
        have hcovers : c.shape.frame.index? x = some i := by
          rw [Frame.index?_eq_some_iff, size_frame_shape]
          exact ⟨hnew, hi⟩
        rw [hindex] at hcovers
        contradiction
      constructor
      . exact haddress'
      . rw [heffect.keep p hother]
        exact hcell

theorem exists_lastPut {t : Target} {cs : List Change} {s : Snapshot} {x : Address} {b : UInt8}
    (h : replay t cs = .ok s) (hb : latest cs x = some b) :
    ∃ p, Shape.lastPut (cs.map shape) x = some p := by
  induction cs generalizing s with
  | nil => contradiction
  | cons c cs ih =>
    rcases replay_cons h with ⟨s₀, hs₀, hs⟩
    have heffect := effect_of_apply hs
    rw [List.map_cons, Shape.lastPut, ← frames_of_replay hs₀]
    unfold latest at hb
    split at hb
    . next i hindex =>
      rw [Frame.index?_eq_some_iff, size_frame_shape] at hindex
      rcases heffect.put i hindex.2 with ⟨p, hlanding, hcell⟩
      exact ⟨p, hlanding⟩
    . apply ih hs₀ hb

theorem exists_apply_iff {s : Snapshot} {c : Change} :
    (∃ s', c.apply s = .ok s') ↔ c.shape.isRegion = true ∨ c.shape.frame.size = 0 ∨
      ∃ k, Frame.room s.frames c.shape.frame.start = some k ∧ c.shape.frame.size ≤ k := by
  cases c with
  | region base bytes => simp [apply, shape]
  | write a data =>
    show (∃ s', s.writeBytes a data = .ok s') ↔ false = true ∨ data.length = 0 ∨
      ∃ k, Frame.room s.frames a = some k ∧ data.length ≤ k
    have hwrites := Snapshot.isSome_writeRegions a data s.regions
    rw [Snapshot.frames, ← hwrites, Snapshot.writeBytes, List.length_eq_zero_iff]
    split
    . next hempty => simp [hempty]
    . next hdata => cases Snapshot.writeRegions a data s.regions <;> simp [hdata]

theorem exists_replay {t : Target} {cs cs' : List Change} {s : Snapshot}
    (h : replay t cs = .ok s) (hshape : cs'.map shape = cs.map shape) :
    ∃ s', replay t cs' = .ok s' := by
  induction cs generalizing cs' s with
  | nil =>
    rw [List.map_nil, List.map_eq_nil_iff] at hshape
    rw [hshape]
    exact ⟨s, h⟩
  | cons c cs ih =>
    rw [List.map_cons, List.map_eq_cons_iff] at hshape
    rcases hshape with ⟨c', cs', rfl, hc, hcs⟩
    rcases replay_cons h with ⟨s₀, hs₀, hs⟩
    rcases ih hs₀ hcs with ⟨s₁, hs₁⟩
    have happly := exists_apply_iff.mp ⟨s, hs⟩
    rw [frames_of_replay hs₀, ← hc, ← hcs, ← frames_of_replay hs₁] at happly
    rcases exists_apply_iff.mpr happly with ⟨s', hs'⟩
    refine ⟨s', ?_⟩
    rw [replay, hs₁]
    exact hs'

def withData : Change → List UInt8 → Change
  | .region base _, data => .region base data
  | .write address _, data => .write address data

@[simp]
theorem data_withData (c : Change) (bs : List UInt8) : (c.withData bs).data = bs := by
  cases c <;> rfl

theorem shape_withData {c : Change} {bs : List UInt8} (h : bs.length = c.data.length) :
    (c.withData bs).shape = c.shape := by
  cases c with
  | region base bytes => exact congrArg (fun n => Shape.mk true ⟨base, n⟩) h
  | write a data => exact congrArg (fun n => Shape.mk false ⟨a, n⟩) h

def paint (f : Spot → UInt8) : List Change → List Change
  | [] => []
  | c :: cs =>
    let color (i : Nat) (b : UInt8) :=
      ((Shape.landing (Shape.frames (cs.map shape)) c.shape i).map f).getD b
    c.withData (c.data.mapIdx color) :: paint f cs

theorem map_shape_paint (f : Spot → UInt8) (cs : List Change) :
    (paint f cs).map shape = cs.map shape := by
  induction cs with
  | nil => rfl
  | cons c cs ih =>
    rw [paint, List.map_cons, List.map_cons, ih, shape_withData]
    rw [List.length_mapIdx]

theorem cell_paint {f : Spot → UInt8} {t : Target} {cs : List Change} {s : Snapshot} {p : Spot}
    {b : UInt8} (h : replay t (paint f cs) = .ok s) (hb : Region.cell s.regions p = some b) :
    b = f p := by
  induction cs generalizing s with
  | nil =>
    injection h with h
    subst h
    contradiction
  | cons c cs ih =>
    rcases replay_cons h with ⟨s₀, hs₀, hs⟩
    rcases effect_of_apply hs with ⟨hframes, hput, hkeep⟩
    rw [shape_withData List.length_mapIdx, data_withData, List.length_mapIdx] at hput hkeep
    by_cases hreached : ∃ i < c.data.length, Shape.landing s₀.frames c.shape i = some p
    . rcases hreached with ⟨i, hi, hlanding⟩
      rcases hput i hi with ⟨q, hq, hcell⟩
      rw [hlanding] at hq
      injection hq with hq
      subst hq
      rw [hb, List.getElem?_mapIdx, List.getElem?_eq_getElem hi, ← map_shape_paint f cs,
        ← frames_of_replay hs₀, hlanding] at hcell
      injection hcell
    . have hkept := hkeep p (by
        intro i hi hlanding
        apply hreached ⟨i, hi, hlanding⟩)
      rw [hkept] at hb
      apply ih hs₀ hb

end Change

namespace Snapshot

/--
The law of shadowing for bytes that were read as a range: each is the one that was put at its
address last, and is what a read of this address alone gives.
-/
def Shadows (s : Snapshot) (cs : List Change) (a : Address) (bs : List UInt8) : Prop :=
  ∀ i (h : i < bs.length), Change.latest cs (a + i) = some bs[i] ∧ s.read (a + i) 1 = some [bs[i]]

theorem shadows_of_undivided {t : Target} {cs : List Change} {s : Snapshot} {a : Address}
    {n : Nat} {bs : List UInt8} (hs : Change.replay t cs = .ok s) (hread : s.read a n = some bs)
    (hrange : Shape.Undivided (cs.map Change.shape) a n) : s.Shadows cs a bs := by
  intro i hi
  have hlen := length_read hread
  rcases read_of_pos (by omega) hread with ⟨p, hspot, -, hcell⟩
  have hbyte : Region.cell s.regions (p.move i) = some bs[i] := by
    rw [← hcell i (by omega), List.getElem?_eq_getElem hi]
  rcases hrange i (by omega) with ⟨halone, hlast⟩
  rw [← Change.frames_of_replay hs, hspot] at halone hlast
  constructor
  . rw [← (Change.cell_lastPut hs hlast).2, hbyte]
  . rw [read_one_iff]
    exact ⟨p.move i, halone, hbyte⟩

theorem undivided_of_shadows {t : Target} {cs : List Change} {s : Snapshot} {a : Address}
    {n : Nat} (hs : Change.replay t cs = .ok s) (hread : (s.read a n).isSome)
    (hlaw : ∀ cs' s' bs', cs'.map Change.shape = cs.map Change.shape →
      Change.replay t cs' = .ok s' → s'.read a n = some bs' → s'.Shadows cs' a bs') :
    Shape.Undivided (cs.map Change.shape) a n := by
  intro i hi
  rcases Option.isSome_iff_exists.mp hread with ⟨bs, hbs⟩
  rcases read_of_pos (by omega) hbs with ⟨p, hspot, -, -⟩
  -- in a painted image the spot of this byte is the only one that holds a zero
  let f (q : Spot) : UInt8 := if q = p.move i then 0 else 1
  have hf (q : Spot) (h : f q = 0) : q = p.move i := by
    by_cases heq : q = p.move i
    . exact heq
    . simp [f, heq] at h
  have hshape := Change.map_shape_paint f cs
  rcases Change.exists_replay hs hshape with ⟨s', hs'⟩
  have hframes : s'.frames = s.frames := by
    rw [Change.frames_of_replay hs', hshape, Change.frames_of_replay hs]
  have hread' : (s'.read a n).isSome := by
    rw [isSome_read, hframes, ← isSome_read]
    exact hread
  rcases Option.isSome_iff_exists.mp hread' with ⟨bs', hbs'⟩
  have hlen := length_read hbs'
  have hi' : i < bs'.length := by omega
  rcases hlaw _ s' bs' hshape hs' hbs' i hi' with ⟨hlatest, halone⟩
  have hzero : bs'[i] = 0 := by
    rcases read_of_pos (by omega) hbs' with ⟨q, hq, -, hcell⟩
    rw [hframes, hspot] at hq
    injection hq with hq
    subst hq
    have hbyte := hcell i hi
    rw [List.getElem?_eq_getElem hi'] at hbyte
    rw [Change.cell_paint hs' hbyte.symm]
    simp [f]
  rw [← Change.frames_of_replay hs, hspot]
  constructor
  . rcases read_one_iff.mp halone with ⟨q, hq, hcell⟩
    rw [hframes] at hq
    rw [hq, hf q (by rw [← Change.cell_paint hs' hcell, hzero])]
    rfl
  . rcases Change.exists_lastPut hs' hlatest with ⟨q, hq⟩
    have hcell := (Change.cell_lastPut hs' hq).2
    rw [hlatest] at hcell
    rw [hshape] at hq
    rw [hq, hf q (by rw [← Change.cell_paint hs' hcell, hzero])]
    rfl

theorem shadows_iff_undivided {t : Target} {cs : List Change} {s : Snapshot} {a : Address}
    {n : Nat} (hs : Change.replay t cs = .ok s) (hread : (s.read a n).isSome) :
    (∀ cs' s' bs', cs'.map Change.shape = cs.map Change.shape → Change.replay t cs' = .ok s' →
      s'.read a n = some bs' → s'.Shadows cs' a bs') ↔
        Shape.Undivided (cs.map Change.shape) a n := by
  constructor
  . apply undivided_of_shadows hs hread
  . intro hrange cs' s' bs' hshape hs' hbs'
    apply shadows_of_undivided hs' hbs'
    rw [hshape]
    exact hrange

theorem stale_byte_under_region :
    let cs := [Change.region ⟨0x1004⟩ [0xFF], .region ⟨0x1000⟩ [0, 0, 0, 0, 0, 0, 0, 0]]
    let s : Snapshot :=
      ⟨.native, [⟨⟨0x1004⟩, #[0xFF]⟩, ⟨⟨0x1000⟩, #[0, 0, 0, 0, 0, 0, 0, 0]⟩]⟩
    Change.replay .native cs = .ok s ∧
      s.read ⟨0x1000⟩ 8 = some [0, 0, 0, 0, 0, 0, 0, 0] ∧
      Change.latest cs (Address.mk 0x1000 + 4) = some 0xFF ∧
      s.read (Address.mk 0x1000 + 4) 1 = some [0xFF] ∧
      ¬s.Shadows cs ⟨0x1000⟩ [0, 0, 0, 0, 0, 0, 0, 0] := by
  intro cs s
  refine ⟨rfl, rfl, rfl, rfl, ?_⟩
  intro h
  have hlatest := (h 4 (by decide)).1
  revert hlatest
  decide

theorem divided_by_region :
    let cs := [Change.region ⟨0x1004⟩ [0xFF], .region ⟨0x1000⟩ [0, 0, 0, 0, 0, 0, 0, 0]]
    ¬∀ cs' s' bs', cs'.map Change.shape = cs.map Change.shape →
      Change.replay .native cs' = .ok s' → s'.read ⟨0x1000⟩ 8 = some bs' →
        s'.Shadows cs' ⟨0x1000⟩ bs' := by
  intro cs hlaw
  have hs : Change.replay .native cs =
      .ok ⟨.native, [⟨⟨0x1004⟩, #[0xFF]⟩, ⟨⟨0x1000⟩, #[0, 0, 0, 0, 0, 0, 0, 0]⟩]⟩ := rfl
  have hrange := (shadows_iff_undivided hs (by decide)).mp hlaw
  revert hrange
  decide

end Snapshot

end LuaScope
