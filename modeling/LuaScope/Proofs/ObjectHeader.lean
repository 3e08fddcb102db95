import LuaScope.Proofs.Fields

/-!
This module contains what the headers of strings and closures and the tags of values come to, by the
fields that they have wherever they lie, and by the offsets of these fields at a multiple of eight.
-/

namespace LuaScope

namespace PointerWidth

def sizeOffset (w : PointerWidth) : Nat :=
  w.bytes + 8

def contentOffset (w : PointerWidth) : Nat :=
  2 * w.bytes + 8

theorem roundUp_contentOffset (w : PointerWidth) : roundUp w.contentOffset 8 = w.contentOffset := by
  cases w <;> decide

end PointerWidth

theorem extent_bytes (w : PointerWidth) (k : Nat) :
    extent (w.bytes :: List.replicate k 1) = w.bytes + k := by
  induction k with
  | zero => cases w <;> rfl
  | succ k ih =>
    rw [List.replicate_succ', ← List.cons_append, extent_append, ih]
    simp [roundUp, Nat.add_assoc]

theorem Address.fieldBehind_bytes {w : PointerWidth} {a : Address} {k : Nat} (ha : 8 ∣ a.toNat)
    (h : a.toNat + (w.bytes + k) < UInt64.size) :
    a.fieldBehind (w.bytes :: List.replicate k 1) 1 = a + (w.bytes + k) := by
  have hround : roundUp (extent (w.bytes :: List.replicate k 1)) 1 = w.bytes + k := by
    rw [extent_bytes]
    simp [roundUp]
  rw [fieldBehind_eq (Nat.dvd_refl 8) ha, hround]
  . intro size hsize
    rw [List.mem_cons, List.mem_replicate] at hsize
    rcases hsize with rfl | ⟨-, rfl⟩
    . apply Cursor.bytes_dvd
    . apply Nat.one_dvd
  . apply Nat.one_dvd
  . rw [hround]
    exact h

namespace Cursor

variable (t : Target) {a : Address} {n : Nat}

theorem read_byte_add (ha : 8 ∣ a.toNat) (h : a.toNat + n < UInt64.size) :
    (Cursor.mk t (a + n)).read .u8 = Peek.scalar t.order .u8 (a + n) := by
  have hround : roundUp n Primitive.u8.size = n := by simp [roundUp, Primitive.size]
  rw [read_add t .u8 ha (by omega), hround]

end Cursor

namespace StringHeader

def tagAt (w : PointerWidth) (a : Address) : Address :=
  a.fieldBehind [w.bytes] 1

/--
Where the length of a short string is from 5.3 on, behind the tag, the mark and a byte of flags.
-/
def shortAt (w : PointerWidth) (a : Address) : Address :=
  a.fieldBehind [w.bytes, 1, 1, 1] 1

def beforeSize (version : Version) (w : PointerWidth) : List Nat :=
  match version with
  | .v51 | .v52 => [w.bytes, 1, 1, 1, 4]
  | .v53 | .v54 => [w.bytes, 1, 1, 1, 1, 4]

def sizeAt (version : Version) (w : PointerWidth) (a : Address) : Address :=
  a.fieldBehind (beforeSize version w) w.bytes

def contentAt (version : Version) (w : PointerWidth) (a : Address) : Address :=
  let header := a.behind (beforeSize version w ++ [w.bytes])
  if version = .v54 then header else header.alignUp maxAlignment

def ofFields (version : Version) (hint : Option Bool) (tag short : Option UInt8)
    (size : Option Address) (content : Address) : Option StringHeader :=
  match version with
  | .v51 => size.map fun n => ⟨hint.getD (maxShortString < n.toNat), n.toNat, content⟩
  | .v52 => size.map fun n =>
    ⟨(hint <|> longOfTag .v52 tag).getD (maxShortString < n.toNat), n.toNat, content⟩
  | version =>
    (hint <|> longOfTag version tag).bind fun long =>
      (if long then size.map Address.toNat else short.map UInt8.toNat).map fun n =>
        ⟨long, n, content⟩

theorem outcome_shortLength (short : Option UInt8) (m : Memory) (c : Cursor) :
    (walk.shortLength short).outcome m c = (short.map UInt8.toNat, c.skipPointer) := by
  rw [walk.shortLength, Walk.outcome_bind, Walk.outcome_skipPointer]
  cases short <;> rfl

theorem result_read_eq (m : Memory) (t : Target) (version : Version) (hint : Option Bool)
    (a : Address) :
    (read t version a hint).result m =
      ofFields version hint (m.byte? t (tagAt t.width a))
        (m.byte? t (shortAt t.width a)) (m.pointer? t (sizeAt version t.width a))
        (contentAt version t.width a) := by
  have hstart : Cursor.mk t a = ⟨t, a.behind []⟩ := rfl
  rw [read, Walk.result_start, walk, hstart]
  unfold ofFields tagAt shortAt sizeAt contentAt beforeSize
  simp only [Walk.fst_outcome_bind, Walk.outcome_commonHeader, Option.bind_some,
    Cursor.skipPointer_behind, Cursor.skip_behind, Cursor.result_read_byte_behind, Primitive.size,
    List.nil_append, List.cons_append]
  cases version with
  | v51 | v52 =>
    simp only [Walk.fst_outcome_bind, Walk.outcome_skip, Walk.outcome_readSize, Walk.outcome_align,
      Walk.outcome_position, Walk.outcome_pure, Option.bind_some, Cursor.skipPointer_behind,
      Cursor.skip_behind, Cursor.result_readPointer_behind, Primitive.size, List.nil_append,
      List.cons_append, Option.bind_map]
    cases m.pointer? t _ <;> rfl
  | v53 | v54 =>
    simp only [Walk.fst_outcome_bind, Walk.outcome_skip, Walk.outcome_attempt_byte,
      Walk.outcome_require, Option.bind_some, Cursor.skip_behind, Cursor.result_read_byte_behind,
      Primitive.size, List.nil_append, List.cons_append]
    cases hint <|> longOfTag _ _ with
    | none => rfl
    | some long =>
      cases long with
      | true =>
        simp only [if_true, Option.bind_some, Walk.fst_outcome_bind, Walk.outcome_readSize,
          Cursor.result_readPointer_behind]
        cases m.pointer? t _ <;> rfl
      | false =>
        simp only [Bool.false_eq_true, if_false, Option.bind_some, Walk.fst_outcome_bind,
          outcome_shortLength]
        cases m.byte? t _ <;> rfl

section

variable {w : PointerWidth} {a : Address} (ha : 8 ∣ a.toNat)
  (h : a.toNat + w.contentOffset ≤ UInt64.size)

include ha h

theorem tagAt_eq : tagAt w a = a + w.bytes := by
  unfold PointerWidth.contentOffset at h
  apply Address.fieldBehind_bytes ha (k := 0)
  omega

theorem shortAt_eq : shortAt w a = a + (w.bytes + 3) := by
  unfold PointerWidth.contentOffset at h
  apply Address.fieldBehind_bytes ha (k := 3)
  omega

theorem sizeAt_eq (version : Version) : sizeAt version w a = a + w.sizeOffset := by
  -- the padding makes up for the byte that only some versions have
  have hround : roundUp (extent (beforeSize version w)) w.bytes = w.sizeOffset := by
    cases version <;> cases w <;> rfl
  have hpos : 0 < w.bytes := by cases w <;> decide
  unfold PointerWidth.contentOffset at h
  unfold sizeAt
  rw [Address.fieldBehind_eq (Nat.dvd_refl 8) ha, hround]
  . cases version <;> cases w <;> decide
  . cases w <;> decide
  . rw [hround]
    unfold PointerWidth.sizeOffset
    omega

theorem contentAt_eq (version : Version) : contentAt version w a = a + w.contentOffset := by
  have hextent : extent (beforeSize version w ++ [w.bytes]) = w.contentOffset := by
    cases version <;> cases w <;> rfl
  have hheader : a.behind (beforeSize version w ++ [w.bytes]) = a + w.contentOffset := by
    rw [Address.behind_eq (Nat.dvd_refl 8) ha, hextent]
    . cases version <;> cases w <;> decide
    . rw [hextent]
      exact h
  unfold contentAt
  simp only [hheader]
  split
  . rfl
  . cases Nat.lt_or_eq_of_le h with
    | inl hlt =>
      have hround := w.roundUp_contentOffset
      have halign := Address.alignUp_add (Nat.dvd_refl 8) ha (n := w.contentOffset)
      rw [hround] at halign
      apply halign hlt
    | inr htop =>
      -- a header that ends at the top is followed by the null address
      have hnull : a + w.contentOffset = .null := by
        rw [← Address.toNat_inj, Address.toNat_add, htop]
        rfl
      rw [hnull]
      rfl

end

theorem result_read (m : Memory) (t : Target) (version : Version) (hint : Option Bool)
    {a : Address} (ha : 8 ∣ a.toNat) (h : a.toNat + t.width.contentOffset ≤ UInt64.size) :
    (read t version a hint).result m =
      ofFields version hint (m.byte? t (a + t.width.bytes))
        (m.byte? t (a + (t.width.bytes + 3)))
        (m.pointer? t (a + t.width.sizeOffset)) (a + t.width.contentOffset) := by
  rw [result_read_eq, tagAt_eq ha h, shortAt_eq ha h, sizeAt_eq ha h, contentAt_eq ha h]

end StringHeader

namespace Closure

def markAt (w : PointerWidth) (a : Address) : Address :=
  a.fieldBehind [w.bytes, 1, 1] 1

theorem result_isExternal_eq (m : Memory) (t : Target) (a : Address) :
    (isExternal t a).result m =
      (m.byte? t (markAt t.width a)).map fun (mark : UInt8) => mark != 0 := by
  have hstart : Cursor.mk t a = ⟨t, a.behind []⟩ := rfl
  rw [isExternal, Walk.result_start, isExternal.walk, hstart]
  unfold markAt
  simp only [Walk.fst_outcome_bind, Walk.outcome_commonHeader, Option.bind_some,
    Walk.outcome_read_byte, Walk.outcome_pure, Cursor.skipPointer_behind, Cursor.skip_behind,
    Cursor.result_read_byte_behind, Primitive.size, List.nil_append, List.cons_append]
  cases m.byte? t _ <;> rfl

theorem markAt_eq {w : PointerWidth} {a : Address} (ha : 8 ∣ a.toNat)
    (h : a.toNat + w.bytes + 2 < UInt64.size) : markAt w a = a + (w.bytes + 2) := by
  apply Address.fieldBehind_bytes ha (k := 2)
  omega

end Closure

namespace Decoder

def tag? (m : Memory) (d : Decoder) (cell : Address) : Option Int :=
  if d.version = .v54 then (m.byte? d.target (cell + 8)).map fun tag => (tag.toNat : Int)
  else m.int? d.target (cell + 8)

theorem result_readTag_eq (m : Memory) (d : Decoder) {cell : Address} (hcell : 8 ∣ cell.toNat)
    (h : cell.toNat + 8 < UInt64.size) : (d.readTag cell).result m = tag? m d cell := by
  have hskip : (Cursor.mk d.target cell).skip .u64 = ⟨d.target, cell + 8⟩ := by
    have := Cursor.skip_add d.target .u64 (n := 0) hcell cell.toNat_lt
    rw [Address.add_zero] at this
    exact this
  unfold readTag tag?
  simp only [hskip]
  cases d.version with
  | v54 =>
    have hread := Cursor.read_byte_add d.target hcell h
    simp only [Version.hasByteTag, if_true, Peek.result_bind]
    rw [hread, Peek.result_scalar_eq]
    rfl
  | v51 | v52 | v53 =>
    have hread := Cursor.read_add d.target .i32 (n := 8) hcell h
    simp only [Version.hasByteTag, reduceCtorEq, Bool.false_eq_true, if_false, Peek.result_bind]
    rw [hread, Peek.result_scalar_eq]
    rfl

end Decoder

end LuaScope
