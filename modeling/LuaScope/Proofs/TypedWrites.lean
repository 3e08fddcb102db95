import LuaScope.Proofs.Fields
import LuaScope.Proofs.Writes

/-!
This module contains the proof that numbers and pointers are read back as they were written. A request
to write one is made once and for as many bytes as its type has, except for a pointer that is too
wide, for which none is made.
-/

namespace LuaScope

namespace Poke

structure Record.Makes (done : Record) (s : Snapshot) (a : Address) (n : Nat) : Prop where
  writes : ∃ bytes, done.writes = [⟨a, bytes⟩] ∧ bytes.length = n
  target : done.image.target = s.target
  result : done.result = if (s.read a n).isSome then .ok () else .error (.writeFailed a n)

theorem run_makes (s : Snapshot) (a : Address) {data : List UInt8} {n : Nat} (hn : 0 < n)
    (hlen : data.length = n) :
    let done := run s (.ok ⟨a, data⟩)
    done.Makes s a n ∧ (done.result = .ok () → done.image.memory.read a n = some data) := by
  intro done
  subst hlen
  have hdata : data ≠ [] := List.length_pos_iff.mp hn
  rcases run_cases s (a := a) hdata with ⟨rs, hwrite, hread, hrun⟩ | ⟨hread, hrun⟩
  . rw [show done = _ from hrun]
    refine ⟨⟨⟨data, rfl, rfl⟩, rfl, ?_⟩, ?_⟩
    . rw [if_pos hread]
    . intro _
      apply Snapshot.read_written hdata hwrite
  . rw [show done = _ from hrun]
    refine ⟨⟨⟨data, rfl, rfl⟩, rfl, ?_⟩, ?_⟩
    . rw [hread]
      rfl
    . intro hok
      contradiction

theorem size_pos (p : Primitive) : 0 < p.size := by
  cases p <;> decide

theorem run_scalar (s : Snapshot) (a : Address) (p : Primitive) (v : p.Carrier) :
    let done := run s (.ok (scalar s.target.order p a v))
    done.Makes s a p.size ∧ (done.result = .ok () →
      (Peek.scalar done.image.target.order p a).result done.image.memory = some v) := by
  intro done
  have hlen := p.length_encode s.target.order v
  rcases run_makes s a (size_pos p) hlen with ⟨hmakes, hread⟩
  refine ⟨hmakes, ?_⟩
  intro hok
  rw [Peek.result_scalar, show done.image.memory.read a p.size = _ from hread hok,
    Option.bind_some, Primitive.decode?, if_pos hlen,
    show done.image.target = _ from hmakes.target, Primitive.decode_encode]

theorem pointer_eq (t : Target) (a b : Address) :
    pointer t a b =
      if t.width = .four ∧ UInt32.size ≤ b.toNat then
        .error (.invalidArgument (b.text ++ " does not fit a 32-bit pointer"))
      else .ok ⟨a, t.order.encode t.width.bytes b.toNat⟩ := by
  unfold pointer
  cases hwidth : t.width with
  | eight => rfl
  | four =>
    dsimp only
    split
    . next hlt =>
      have hnarrow : b.value.toUInt32.toNat = b.toNat := by
        rw [UInt64.toNat_toUInt32]
        exact Nat.mod_eq_of_lt hlt
      rw [if_neg (by omega)]
      show Except.ok (Poke.mk a (t.order.encode 4 b.value.toUInt32.toNat)) = _
      rw [hnarrow]
      rfl
    . next hge => rw [if_pos ⟨rfl, Nat.le_of_not_lt hge⟩]

theorem lt_capacity_of_fits {t : Target} {b : Address}
    (h : ¬(t.width = .four ∧ UInt32.size ≤ b.toNat)) :
    b.toNat < ByteOrder.capacity t.width.bytes := by
  cases hwidth : t.width with
  | four =>
    rw [hwidth] at h
    exact Nat.lt_of_not_le fun hle => h ⟨rfl, hle⟩
  | eight => exact b.toNat_lt

theorem run_pointer (s : Snapshot) (a b : Address)
    (h : ¬(s.target.width = .four ∧ UInt32.size ≤ b.toNat)) :
    let done := run s (pointer s.target a b)
    done.Makes s a s.target.width.bytes ∧ (done.result = .ok () →
      (Peek.pointer done.image.target a).result done.image.memory = some b) := by
  intro done
  have hdone : done = run s (.ok ⟨a, s.target.order.encode s.target.width.bytes b.toNat⟩) := by
    show run s (pointer s.target a b) = _
    rw [pointer_eq, if_neg h]
  have hpos : 0 < s.target.width.bytes := by cases s.target.width <;> decide
  have hlen := s.target.order.length_encode s.target.width.bytes b.toNat
  rcases run_makes s a hpos hlen with ⟨hmakes, hread⟩
  rw [← hdone] at hmakes hread
  refine ⟨hmakes, ?_⟩
  intro hok
  rw [Peek.result_pointer_eq, hmakes.target, Memory.pointer?_of_read (hread hok) hlen,
    ByteOrder.decode_encode, Nat.mod_eq_of_lt (lt_capacity_of_fits h), Address.ofNat_toNat]

/--
A scalar takes one write of its size and reads back as it was written, bit for bit, where the write
succeeds. Its bytes and its value determine each other, and the two orders reverse the bytes. The
same goes for pointers, except that one too wide for the target is refused before anything is done.
-/
theorem typed_write_reads_back (s : Snapshot) (a : Address) :
    (∀ (p : Primitive) (v : p.Carrier),
      let done := run s (.ok (scalar s.target.order p a v))
      done.Makes s a p.size ∧ (done.result = .ok () →
        (Peek.scalar done.image.target.order p a).result done.image.memory = some v)) ∧
    (∀ (p : Primitive) (order : ByteOrder) (bytes : List UInt8), bytes.length = p.size →
      p.encode order (p.decode order bytes) = bytes) ∧
    (∀ (p : Primitive) (v : p.Carrier), p.encode .big v = (p.encode .little v).reverse) ∧
    ∀ b : Address,
      let done := run s (pointer s.target a b)
      if s.target.width = .four ∧ UInt32.size ≤ b.toNat then
        done = ⟨.error (.invalidArgument (b.text ++ " does not fit a 32-bit pointer")), s, []⟩
      else
        done.Makes s a s.target.width.bytes ∧ (done.result = .ok () →
          (Peek.pointer done.image.target a).result done.image.memory = some b) := by
  refine ⟨?_, ?_, ?_, ?_⟩
  . intro p v
    apply run_scalar
  . intro p order bytes hlen
    apply p.encode_decode order bytes hlen
  . intro p v
    rfl
  . intro b
    dsimp only
    split
    . next hwide =>
      rw [pointer_eq, if_pos hwide]
      rfl
    . next hfits => apply run_pointer s a b hfits

theorem typed_write_big_endian :
    let s : Snapshot := ⟨⟨.four, .big⟩, [⟨⟨0x1000⟩, #[0, 0, 0, 0, 0, 0]⟩]⟩
    let signed := run s (.ok (scalar s.target.order .i16 ⟨0x1004⟩ (-2 : Int16)))
    let pointed := run s (pointer s.target ⟨0x1002⟩ ⟨0xFFFFFFFF⟩)
    signed.image.regions = [⟨⟨0x1000⟩, #[0, 0, 0, 0, 0xFF, 0xFE]⟩] ∧
      (Peek.scalar signed.image.target.order .i16 ⟨0x1004⟩).result signed.image.memory =
        some (-2 : Int16) ∧
      (Peek.pointer pointed.image.target ⟨0x1002⟩).result pointed.image.memory =
        some ⟨0xFFFFFFFF⟩ ∧
      Primitive.encode .u16 .little (Primitive.decode .u16 .little [0x34, 0x12]) = [0x34, 0x12] ∧
      run s (pointer s.target ⟨0x1002⟩ ⟨0x100000000⟩) =
        ⟨.error (.invalidArgument "0x100000000 does not fit a 32-bit pointer"), s, []⟩ := by
  intro s signed pointed
  rcases typed_write_reads_back s ⟨0x1004⟩ with ⟨hscalar, hbytes, -, -⟩
  rcases typed_write_reads_back s ⟨0x1002⟩ with ⟨-, -, -, hpointer⟩
  rcases hscalar .i16 (-2 : Int16) with ⟨hsigned, hread⟩
  have hnarrow := hpointer ⟨0xFFFFFFFF⟩
  have hwide := hpointer ⟨0x100000000⟩
  rw [if_neg (by decide)] at hnarrow
  rw [if_pos (by decide)] at hwide
  refine ⟨by decide +kernel, ?_, ?_, hbytes .u16 .little _ rfl, hwide⟩
  . rw [show signed = run s _ from rfl]
    apply hread
    rw [hsigned.result, if_pos (by decide)]
  . rw [show pointed = run s _ from rfl]
    apply hnarrow.2
    rw [hnarrow.1.result, if_pos (by decide)]

end Poke

end LuaScope
