import LuaScope.Memory.Snapshot
import LuaScope.Proofs.Fields

/-!
This module contains what it means that a memory holds some bytes, and when an image does: the bytes
lie in one region and no region that was added later covers any of them.
-/

namespace LuaScope

def Memory.Holds (m : Memory) (a : Address) (bs : List UInt8) : Prop :=
  ∀ o n, o + n ≤ bs.length → m.read (a + o) n = some ((bs.drop o).take n)

namespace Memory.Holds

variable {m : Memory} {a : Address} {bs field : List UInt8} {o : Nat}

theorem read_field (h : m.Holds a bs) (hfield : field <+: bs.drop o) (hpos : 0 < field.length) :
    m.read (a + o) field.length = some field := by
  have hlen := hfield.length_le
  rw [List.length_drop] at hlen
  rw [h o field.length (by omega)]
  rw [List.prefix_iff_eq_take] at hfield
  rw [← hfield]

theorem result_scalar (h : m.Holds a bs) {order : ByteOrder} {p : Primitive} {n : Nat}
    (hfield : order.encode p.size n <+: bs.drop o) (hn : n < ByteOrder.capacity p.size) :
    (Peek.scalar order p (a + o)).result m = some (p.ofPattern n) := by
  have hlen := order.length_encode p.size n
  have hpos : 0 < p.size := by cases p <;> decide
  have hread := h.read_field hfield (by omega)
  rw [hlen] at hread
  rw [Peek.result_scalar, hread, Option.bind_some, Primitive.decode?, if_pos hlen,
    Primitive.decode, List.take_of_length_le (by omega), ByteOrder.decode_encode,
    Nat.mod_eq_of_lt hn]

theorem result_encode (h : m.Holds a bs) {order : ByteOrder} {p : Primitive} {x : p.Carrier}
    (hfield : p.encode order x <+: bs.drop o) :
    (Peek.scalar order p (a + o)).result m = some x := by
  rw [h.result_scalar hfield (p.pattern_lt x), p.ofPattern_pattern]

theorem result_byte (h : m.Holds a bs) (order : ByteOrder) {b : UInt8}
    (hfield : [b] <+: bs.drop o) :
    (Peek.scalar order .u8 (a + o)).result m = some b := by
  have hencode : order.encode 1 b.toNat = [b] := by
    cases order <;> simp [ByteOrder.encode, ByteOrder.toDigits]
  rw [← hencode] at hfield
  apply h.result_encode (p := .u8) hfield

theorem byte?_eq (h : m.Holds a bs) (t : Target) {b : UInt8} (hfield : [b] <+: bs.drop o) :
    m.byte? t (a + o) = some b := by
  have hbyte := h.result_byte t.order hfield
  rw [Peek.result_scalar_eq] at hbyte
  exact hbyte

theorem result_pointer (h : m.Holds a bs) {t : Target} {n : Nat}
    (hfield : t.order.encode t.width.bytes n <+: bs.drop o)
    (hn : n < ByteOrder.capacity t.width.bytes) :
    (Peek.pointer t (a + o)).result m = some (Address.ofNat n) := by
  rcases t with ⟨width, order⟩
  cases width with
  | four =>
    have hscalar := h.result_scalar (p := .u32) hfield hn
    simp only [Peek.pointer, Peek.result_bind]
    rw [hscalar]
    apply congrArg some (Address.mk_toUInt64 hn)
  | eight =>
    have hscalar := h.result_scalar (p := .u64) hfield hn
    simp only [Peek.pointer, Peek.result_bind]
    rw [hscalar]
    rfl

end Memory.Holds

namespace Region

theorem offset?_eq_none_iff {r : Region} {a : Address} :
    r.offset? a = none ↔ ∀ i < r.bytes.size, a.toNat ≠ r.base.toNat + i := by
  rw [Option.eq_none_iff_forall_ne_some]
  constructor
  . intro h i hi ha
    apply h i (offset?_eq_some_iff.mpr ⟨ha, hi⟩)
  . intro h i hi
    rw [offset?_eq_some_iff] at hi
    apply h i hi.2 hi.1

end Region

namespace Snapshot

/--
The bytes lie in one region at the address, and no later region covers any of them.
-/
def Lays (s : Snapshot) (a : Address) (bs : List UInt8) : Prop :=
  ∃ newer r older o, s.regions = newer ++ r :: older ∧ a.toNat = r.base.toNat + o ∧
    bs <+: r.bytes.toList.drop o ∧ ∀ q ∈ newer, ∀ i < bs.length, q.offset? (a + i) = none

theorem lays_addRegion (s : Snapshot) (base : Address) (bytes : Array UInt8) :
    (s.addRegion base bytes).Lays base bytes.toList :=
  ⟨[], ⟨base, bytes⟩, s.regions, 0, rfl, rfl, List.prefix_rfl, by simp⟩

theorem Lays.addRegion {s : Snapshot} {a : Address} {bs : List UInt8} (h : s.Lays a bs)
    {base : Address} {bytes : Array UInt8}
    (hdisjoint : ∀ i < bs.length, ∀ j < bytes.size, (a + i).toNat ≠ base.toNat + j) :
    (s.addRegion base bytes).Lays a bs := by
  rcases h with ⟨newer, r, older, o, hregions, ha, hbs, hnewer⟩
  refine ⟨⟨base, bytes⟩ :: newer, r, older, o, ?_, ha, hbs, ?_⟩
  . simp [Snapshot.addRegion, hregions]
  . intro q hq i hi
    cases List.mem_cons.mp hq with
    | inl hnew =>
      rw [hnew, Region.offset?_eq_none_iff]
      apply hdisjoint i hi
    | inr hold => exact hnewer q hold i hi

theorem Lays.locate {s : Snapshot} {a : Address} {bs : List UInt8} (h : s.Lays a bs)
    (htop : a.toNat + bs.length ≤ UInt64.size) :
    ∃ r o, bs <+: r.bytes.toList.drop o ∧
      ∀ i < bs.length, s.locate (a + i) = some (r, o + i) := by
  rcases h with ⟨newer, r, older, o, hregions, ha, hbs, hnewer⟩
  refine ⟨r, o, hbs, ?_⟩
  intro i hi
  have hsize : r.bytes.toList.length = r.bytes.size := Array.length_toList
  have hlen := hbs.length_le
  rw [List.length_drop] at hlen
  have hoffset : r.offset? (a + i) = some (o + i) := by
    rw [Region.offset?_eq_some_iff, Address.toNat_add_of_lt (by omega)]
    omega
  have hskip :
      newer.findSome? (fun r => (r.offset? (a + i)).map fun offset => (r, offset)) = none := by
    rw [List.findSome?_eq_none_iff]
    intro q hq
    rw [hnewer q hq i hi]
    rfl
  rw [Snapshot.locate, hregions, List.findSome?_append, hskip, List.findSome?_cons, hoffset]
  rfl

theorem Lays.holds {s : Snapshot} {a : Address} {bs : List UInt8} (h : s.Lays a bs)
    (htop : a.toNat + bs.length ≤ UInt64.size) : s.memory.Holds a bs := by
  intro o n hn
  show s.read (a + o) n = _
  unfold read
  split
  . next hzero => simp [hzero]
  . next hpos =>
    rcases h.locate htop with ⟨r, start, hbs, hlocate⟩
    have hsize : r.bytes.toList.length = r.bytes.size := Array.length_toList
    have hlen := hbs.length_le
    rw [List.length_drop] at hlen
    rcases hbs with ⟨rest, hrest⟩
    rw [hlocate o (by omega)]
    show (if start + o + n ≤ r.bytes.size then some (r.window (start + o) n) else none) = _
    rw [if_pos (by omega), Region.window_eq, ← List.drop_drop, ← hrest,
      List.drop_append_of_le_length (by omega), List.take_append_of_le_length]
    rw [List.length_drop]
    omega

end Snapshot

end LuaScope
