import Mathlib.Data.List.Induction
import LuaScope.Proofs.StringContent
import LuaScope.Proofs.Walk

/-!
This module contains where a structure has its fields and what is stored in them. A field is found
behind the fields before it, at the next multiple of its size. In a structure that is aligned itself
these are the offsets of C.
-/

namespace LuaScope

namespace Address

/--
The address that follows on fields of these sizes.
-/
def behind (a : Address) (sizes : List Nat) : Address :=
  sizes.foldl (fun p size => p.alignUp (UInt64.ofNat size) + size) a

def fieldBehind (a : Address) (sizes : List Nat) (size : Nat) : Address :=
  (a.behind sizes).alignUp (UInt64.ofNat size)

theorem behind_append (a : Address) (sizes : List Nat) (size : Nat) :
    a.behind (sizes ++ [size]) = a.fieldBehind sizes size + size := by
  unfold behind
  rw [List.foldl_append]
  rfl

end Address

theorem extent_append (sizes : List Nat) (size : Nat) :
    extent (sizes ++ [size]) = roundUp (extent sizes) size + size := by
  unfold extent
  rw [List.foldl_append]
  rfl

namespace Address

variable {a : Address} {b : Nat} {sizes : List Nat}

theorem behind_eq (hb : b ∣ 8) (ha : b ∣ a.toNat) (hsizes : ∀ size ∈ sizes, size ∣ b)
    (h : a.toNat + extent sizes ≤ UInt64.size) : a.behind sizes = a + extent sizes := by
  induction sizes using List.reverseRecOn with
  | nil =>
    show a = a + 0
    rw [add_zero]
  | append_singleton sizes size ih =>
    have hsize : size ∣ b := hsizes size (by simp)
    have hpos : 0 < size := Nat.pos_of_dvd_of_pos (Nat.dvd_trans hsize hb) (by omega)
    rw [extent_append] at h
    have hle := le_roundUp (n := extent sizes) hpos
    have hbefore : a.behind sizes = a + extent sizes := by
      apply ih
      . intro s hs
        apply hsizes s
        simp [hs]
      . omega
    rw [behind_append, fieldBehind, hbefore,
      alignUp_add (Nat.dvd_trans hsize hb) (Nat.dvd_trans hsize ha) (by omega), add_add,
      extent_append]

theorem fieldBehind_eq (hb : b ∣ 8) (ha : b ∣ a.toNat) (hsizes : ∀ size ∈ sizes, size ∣ b)
    {size : Nat} (hsize : size ∣ b) (h : a.toNat + roundUp (extent sizes) size < UInt64.size) :
    a.fieldBehind sizes size = a + roundUp (extent sizes) size := by
  have hpos : 0 < size := Nat.pos_of_dvd_of_pos (Nat.dvd_trans hsize hb) (by omega)
  have hle := le_roundUp (n := extent sizes) hpos
  rw [fieldBehind, behind_eq hb ha hsizes (by omega),
    alignUp_add (Nat.dvd_trans hsize hb) (Nat.dvd_trans hsize ha) h]

end Address

namespace Memory

def HasField (m : Memory) (a : Address) (size : Nat) : Prop :=
  ∃ bs, m.read a size = some bs ∧ bs.length = size

def scalar? (m : Memory) (order : ByteOrder) (p : Primitive) (a : Address) : Option p.Carrier :=
  (m.read a p.size).bind (p.decode? order)

def pointer? (m : Memory) (t : Target) (a : Address) : Option Address :=
  (m.read a t.width.bytes).bind fun bs =>
    if bs.length = t.width.bytes then some (.ofNat (t.order.decode bs)) else none

-- rewriting finds the types of these fields only where they are spelled out
def byte? (m : Memory) (t : Target) (a : Address) : Option UInt8 :=
  m.scalar? t.order .u8 a

def int? (m : Memory) (t : Target) (a : Address) : Option Int :=
  (m.scalar? t.order .i32 a).map Int32.toInt

variable {m : Memory} {a : Address}

theorem isSome_scalar? {o : ByteOrder} {p : Primitive} :
    (m.scalar? o p a).isSome ↔ m.HasField a p.size := by
  unfold scalar? HasField Primitive.decode?
  cases m.read a p.size with
  | none => simp
  | some bs => by_cases h : bs.length = p.size <;> simp [h]

theorem isSome_pointer? {t : Target} :
    (m.pointer? t a).isSome ↔ m.HasField a t.width.bytes := by
  unfold pointer? HasField
  cases m.read a t.width.bytes with
  | none => simp
  | some bs => by_cases h : bs.length = t.width.bytes <;> simp [h]

theorem isSome_byte? {t : Target} : (m.byte? t a).isSome ↔ m.HasField a 1 :=
  isSome_scalar? (p := .u8)

theorem isSome_int? {t : Target} : (m.int? t a).isSome ↔ m.HasField a 4 := by
  have h := isSome_scalar? (m := m) (o := t.order) (p := .i32) (a := a)
  unfold int?
  rw [Option.isSome_map]
  exact h

theorem scalar?_of_read {order : ByteOrder} {p : Primitive} {bs : List UInt8}
    (hread : m.read a p.size = some bs) (hlen : bs.length = p.size) :
    m.scalar? order p a = some (p.ofPattern (order.decode bs)) := by
  rw [scalar?, hread, Option.bind_some, Primitive.decode?, if_pos hlen, Primitive.decode,
    List.take_of_length_le (Nat.le_of_eq hlen)]

theorem pointer?_of_read {t : Target} {bs : List UInt8}
    (hread : m.read a t.width.bytes = some bs) (hlen : bs.length = t.width.bytes) :
    m.pointer? t a = some (.ofNat (t.order.decode bs)) := by
  rw [pointer?, hread, Option.bind_some, if_pos hlen]

theorem scalar?_eq_none {o : ByteOrder} {p : Primitive} :
    m.scalar? o p a = none ↔ ¬m.HasField a p.size := by
  rw [← isSome_scalar?, Option.not_isSome_iff_eq_none]

theorem pointer?_eq_none {t : Target} :
    m.pointer? t a = none ↔ ¬m.HasField a t.width.bytes := by
  rw [← isSome_pointer?, Option.not_isSome_iff_eq_none]

theorem Agrees.not_hasField (hm : m.Agrees) {size : Nat} :
    ¬m.HasField a size ↔ m.read a size = none := by
  unfold HasField
  cases h : m.read a size with
  | none => simp
  | some bs =>
    have hlen := (hm a size bs h).1
    simp [hlen]

end Memory

namespace Peek

theorem result_scalar_eq (m : Memory) (order : ByteOrder) (p : Primitive) (a : Address) :
    (scalar order p a).result m = m.scalar? order p a :=
  result_scalar m order p a

theorem result_pointer_eq (m : Memory) (t : Target) (a : Address) :
    (pointer t a).result m = m.pointer? t a := by
  by_cases h : m.HasField a t.width.bytes
  . rcases t with ⟨width, order⟩
    rcases h with ⟨bs, hread, hlen⟩
    rw [Memory.pointer?_of_read hread hlen]
    unfold pointer
    cases width with
    | four =>
      have hlt := order.decode_lt bs
      rw [hlen] at hlt
      simp only [result_bind]
      rw [result_scalar_eq, Memory.scalar?_of_read hread hlen]
      apply congrArg some (Address.mk_toUInt64 hlt)
    | eight =>
      simp only [result_bind]
      rw [result_scalar_eq, Memory.scalar?_of_read hread hlen]
      rfl
  . rw [Memory.pointer?_eq_none.mpr h]
    unfold pointer
    rcases t with ⟨width, order⟩
    cases width with
    | four | eight =>
      simp only [result_bind]
      rw [result_scalar_eq, Memory.scalar?_eq_none.mpr h]
      rfl

end Peek

namespace Cursor

variable (t : Target) (a : Address) (sizes : List Nat)

theorem past_behind (size : Nat) :
    (Cursor.mk t (a.behind sizes)).past size = ⟨t, a.behind (sizes ++ [size])⟩ := by
  rw [Address.behind_append]
  rfl

theorem skip_behind (p : Primitive) :
    (Cursor.mk t (a.behind sizes)).skip p = ⟨t, a.behind (sizes ++ [p.size])⟩ :=
  past_behind t a sizes p.size

theorem skipPointer_behind :
    (Cursor.mk t (a.behind sizes)).skipPointer = ⟨t, a.behind (sizes ++ [t.width.bytes])⟩ :=
  past_behind t a sizes t.width.bytes

theorem repeat_skipPointer_behind (count : Nat) :
    count.repeat skipPointer (Cursor.mk t (a.behind sizes)) =
      ⟨t, a.behind (sizes ++ List.replicate count t.width.bytes)⟩ := by
  induction count with
  | zero => simp [Nat.repeat]
  | succ count ih =>
    rw [Nat.repeat, ih, skipPointer_behind, List.append_assoc, List.replicate_succ']

theorem field_behind (size : Nat) :
    (Cursor.mk t (a.behind sizes)).field size = a.fieldBehind sizes size := rfl

theorem result_read_behind (m : Memory) (p : Primitive) :
    ((Cursor.mk t (a.behind sizes)).read p).result m =
      m.scalar? t.order p (a.fieldBehind sizes p.size) := by
  unfold read
  rw [Peek.result_scalar_eq, field_behind]

theorem result_read_byte_behind (m : Memory) :
    @Peek.result (Option UInt8) m ((Cursor.mk t (a.behind sizes)).read .u8) =
      m.byte? t (a.fieldBehind sizes 1) :=
  result_read_behind t a sizes m .u8

theorem result_readPointer_behind (m : Memory) :
    (Cursor.mk t (a.behind sizes)).readPointer.result m =
      m.pointer? t (a.fieldBehind sizes t.width.bytes) := by
  unfold readPointer
  rw [Peek.result_pointer_eq, field_behind]

end Cursor

end LuaScope
