import LuaScope.Proofs.Image
import LuaScope.Proofs.Representation

/-!
This module contains the proof that decoding gives back every value that the runtime can have, from
the bytes that it keeps for it.
-/

namespace LuaScope

theorem Primitive.toInt_ofPattern_i32 {n : Nat} (h : n < 2147483648) :
    Int32.toInt (Primitive.ofPattern .i32 n) = n := by
  show (BitVec.ofNat 32 n).toInt = n
  have hn : (BitVec.ofNat 32 n).toNat = n := by
    rw [BitVec.toNat_ofNat]
    omega
  rw [BitVec.toInt_eq_toNat_of_lt, hn]
  omega

theorem Address.toNat_ofNat_of_lt {n : Nat} {w : PointerWidth}
    (h : n < ByteOrder.capacity w.bytes) : (ofNat n).toNat = n := by
  have hle : ByteOrder.capacity w.bytes ≤ UInt64.size := by cases w <;> decide
  show (UInt64.ofNat n).toNat = n
  rw [UInt64.toNat_ofNat_of_lt']
  omega

theorem LuaValue.kind_of_mem_tags {version : Version} {text : String} {kind : StringKind}
    {p : Address} {raw : UInt8} (h : raw ∈ (LuaValue.string text kind p).tags version)
    (hversion : version = .v51) : kind = if 40 < text.utf8ByteSize then .long else .short := by
  subst hversion
  simp only [tags] at h
  by_cases hkind : kind = if 40 < text.utf8ByteSize then .long else .short
  . exact hkind
  . simp [hkind] at h

namespace Peek

variable {m : Memory}

theorem result_decodeScalar (d : Decoder) {p : Primitive} {what : String} {payload : Address}
    {build : p.Carrier → Payload} {x : p.Carrier}
    (h : (scalar d.target.order p payload).result m = some x) :
    (d.decodeScalar p what payload build).result m = .ok (build x) := by
  rw [Decoder.decodeScalar, result_bind, h]
  rfl

theorem result_decodePointer (d : Decoder) {what : String} {payload a : Address}
    {build : Address → Peek (Except DecodeFault Payload)}
    (h : (pointer d.target payload).result m = some a) :
    (d.decodePointer what payload build).result m = (build a).result m := by
  rw [Decoder.decodePointer, result_bind, h]

theorem result_decodePayload_string {t : Target} {version : Version} {tag : UInt8} {text : String}
    {kind : StringKind} {a p : Address} (limit : Nat)
    (hclass : Tag.classify version tag = (LuaValue.string text kind p).tag version)
    (hpointer : (pointer t a).result m = some p) :
    (Decoder.decodePayload ⟨t, version, limit⟩ tag a).result m =
      (Decoder.decodeString ⟨t, version, limit⟩ p
        (if version = .v51 then none else some (kind = .long))).result m := by
  rw [Decoder.decodePayload, hclass]
  cases version with
  | v51 =>
    simp only [LuaValue.tag]
    rw [result_decodePointer _ hpointer]
    rfl
  | v52 | v53 | v54 =>
    cases kind with
    | short | long =>
      simp only [LuaValue.tag, reduceCtorEq, if_true, if_false]
      rw [result_decodePointer _ hpointer]
      rfl

theorem result_decodePayload_object {t : Target} {version : Version} {tag : UInt8}
    {kind : ObjectKind} {a p : Address} (limit : Nat)
    (hclass : Tag.classify version tag = (LuaValue.object kind p).tag version)
    (hpointer : (pointer t a).result m = some p) :
    (Decoder.decodePayload ⟨t, version, limit⟩ tag a).result m =
      if version = .v51 ∧ (kind = .luaFunction ∨ kind = .externalClosure) then
        (Decoder.decodeClosure ⟨t, version, limit⟩ p).result m
      else .ok (.object kind p) := by
  rw [Decoder.decodePayload, hclass]
  cases kind with
  | table | externalFunction | userData | thread =>
    simp only [LuaValue.tag, reduceCtorEq, or_self, and_false, if_false]
    rw [Decoder.decodeObject, result_decodePointer _ hpointer]
    rfl
  | luaFunction | externalClosure =>
    -- in 5.1 the tag is the same for both, and the object decides
    by_cases hversion : version = .v51
    . simp only [LuaValue.tag, hversion, if_true, or_true, true_or, and_self]
      rw [result_decodePointer _ hpointer]
    . simp only [LuaValue.tag, hversion, if_false, false_and]
      rw [Decoder.decodeObject, result_decodePointer _ hpointer]
      rfl

end Peek

namespace StringHeader

theorem result_text {m : Memory} {h : StringHeader} {limit : Nat} {bs : List UInt8}
    (hread : m.read h.content (min h.length limit) = some bs) :
    (h.text limit).result m =
      some (Utf8.decodeLossy bs, decide (min h.length limit < h.length)) := by
  have hbytes : (Peek.bytes h.content (min h.length limit)).result m = some bs := hread
  simp only [text, bytes, Peek.result_bind, hbytes]
  rfl

end StringHeader

namespace Memory.Holds

variable {m : Memory} {a : Address} {t : Target} {version : Version} {e : Surroundings}

theorem result_readTag {value : LuaValue} {tag : UInt8} (limit : Nat)
    (h : m.Holds a (value.cell t version e tag)) (ha : 8 ∣ a.toNat)
    (htop : a.toNat + (value.cell t version e tag).length ≤ UInt64.size) :
    (Decoder.readTag ⟨t, version, limit⟩ a).result m = some (tag.toNat : Int) := by
  have hfield := value.cell_tag t version e tag
  have hlen := value.lt_length_cell t version e tag
  rw [Decoder.result_readTag_eq m _ ha (by omega)]
  unfold Decoder.tag?
  by_cases hversion : version = .v54
  . rw [if_pos hversion] at hfield ⊢
    rw [h.byte?_eq t hfield]
    rfl
  . rw [if_neg hversion] at hfield ⊢
    have hlt := tag.toNat_lt
    have hcapacity : tag.toNat < ByteOrder.capacity Primitive.i32.size := by
      simp only [ByteOrder.capacity, Primitive.size]
      omega
    have hint := h.result_scalar (p := .i32) hfield hcapacity
    rw [Peek.result_scalar_eq] at hint
    rw [Memory.int?, hint]
    apply congrArg some (Primitive.toInt_ofPattern_i32 (by omega))

theorem result_header {text : String} {kind : StringKind}
    (h : m.Holds a (stringObject t version e text kind)) (ha : 8 ∣ a.toNat)
    (htop : a.toNat + (stringObject t version e text kind).length ≤ UInt64.size)
    (hsize : text.utf8ByteSize <
      ByteOrder.capacity (if kind.hasByteLength version then 1 else t.width.bytes))
    (hkind : version = .v51 → kind = if 40 < text.utf8ByteSize then .long else .short) :
    (StringHeader.read t version a
      (if version = .v51 then none else some (kind = .long))).result m =
        some ⟨kind = .long, text.utf8ByteSize, a + t.width.contentOffset⟩ := by
  rw [length_stringObject] at htop
  rw [StringHeader.result_read m t version _ ha (by omega)]
  cases hlength : kind.hasByteLength version with
  | true =>
    have hshort := h.byte?_eq t (stringObject_short t version e hlength text)
    have hlt : text.utf8ByteSize < 256 := by simpa [hlength, ByteOrder.capacity] using hsize
    have hnat := Utf8.toNat_ofNat_of_lt hlt
    rw [hshort]
    simp only [StringKind.hasByteLength, decide_eq_true_eq] at hlength
    obtain ⟨rfl, rfl | rfl⟩ := hlength <;> simp [StringHeader.ofFields, hnat]
  | false =>
    have hlt : text.utf8ByteSize < ByteOrder.capacity t.width.bytes := by
      simpa [hlength] using hsize
    have hpointer := h.result_pointer (stringObject_size t version e hlength text) hlt
    have hnat := Address.toNat_ofNat_of_lt hlt
    rw [Peek.result_pointer_eq] at hpointer
    rw [hpointer]
    cases version with
    | v51 =>
      rw [hkind rfl]
      simp [StringHeader.ofFields, hnat, maxShortString]
    | v52 => simp [StringHeader.ofFields, hnat]
    | v53 | v54 =>
      cases kind with
      | short => simp [StringKind.hasByteLength] at hlength
      | long => simp [StringHeader.ofFields, hnat]

theorem result_text {text : String} {kind : StringKind} (long : Bool) (limit : Nat)
    (h : m.Holds a (stringObject t version e text kind)) :
    (StringHeader.text ⟨long, text.utf8ByteSize, a + t.width.contentOffset⟩ limit).result m =
      some (Utf8.decodeLossy ((Utf8.encode text).take (min text.utf8ByteSize limit)),
        decide (min text.utf8ByteSize limit < text.utf8ByteSize)) := by
  apply StringHeader.result_text
  have hmin : min text.utf8ByteSize limit ≤ (Utf8.encode text).length := by
    rw [Utf8.length_encode]
    omega
  rcases stringObject_content t version e text kind with ⟨rest, hrest⟩
  rw [h t.width.contentOffset _ _]
  . rw [← hrest, List.take_append_of_le_length hmin]
  . rw [length_stringObject]
    show t.width.contentOffset + min text.utf8ByteSize limit ≤ _
    omega

theorem result_decodeString {text : String} {kind : StringKind} (limit : Nat) (hnull : a ≠ .null)
    (h : m.Holds a (stringObject t version e text kind)) (ha : 8 ∣ a.toNat)
    (htop : a.toNat + (stringObject t version e text kind).length ≤ UInt64.size)
    (hsize : text.utf8ByteSize <
      ByteOrder.capacity (if kind.hasByteLength version then 1 else t.width.bytes))
    (hkind : version = .v51 → kind = if 40 < text.utf8ByteSize then .long else .short) :
    (Decoder.decodeString ⟨t, version, limit⟩ a
      (if version = .v51 then none else some (kind = .long))).result m =
        .ok ((LuaValue.string text kind a).decoded limit) := by
  have hheader := h.result_header ha htop hsize hkind
  have htext := h.result_text (kind = .long) limit
  have hsome : a.isNull = false := by
    rw [Bool.eq_false_iff, ne_eq, Address.isNull_iff]
    exact hnull
  have hlong : (if kind = .long then StringKind.long else .short) = kind := by
    cases kind <;> rfl
  -- a text that is not cut off comes back whole
  have hkept : Utf8.decodeLossy ((Utf8.encode text).take (min text.utf8ByteSize limit)) =
      if text.utf8ByteSize ≤ limit then text
      else Utf8.decodeLossy ((Utf8.encode text).take limit) := by
    split
    . next hle =>
      rw [Nat.min_eq_left hle, ← Utf8.length_encode, List.take_length, Utf8.decodeLossy_encode]
    . next hlt => rw [Nat.min_eq_right (by omega)]
  unfold Decoder.decodeString
  simp only [hsome, Bool.false_eq_true, if_false, Peek.result_bind, hheader, htext, hkept,
    decide_eq_true_eq, hlong]
  split <;> rfl

theorem result_decodeClosure {isExternal : Bool} (limit : Nat)
    (h : m.Holds a (closureObject t e isExternal)) (ha : 8 ∣ a.toNat)
    (htop : a.toNat + (closureObject t e isExternal).length ≤ UInt64.size) :
    (Decoder.decodeClosure ⟨t, version, limit⟩ a).result m =
      .ok (.object (if isExternal then .externalClosure else .luaFunction) a) := by
  have hlen := le_length_closureObject t e isExternal
  have hmark := h.byte?_eq t (closureObject_mark t e isExternal)
  have hexternal := Closure.result_isExternal_eq m t a
  rw [Closure.markAt_eq ha (by omega), hmark] at hexternal
  rw [Decoder.decodeClosure, Peek.result_bind, hexternal]
  cases isExternal <;> rfl

theorem result_payload {value : LuaValue} {tag : UInt8} {p : Address}
    (hcell : m.Holds a (value.cell t version e tag))
    (hbytes : value.payload t version = t.order.encode t.width.bytes p.toNat)
    (hp : p.toNat < ByteOrder.capacity t.width.bytes) :
    (Peek.pointer t a).result m = some p := by
  have hpayload := value.cell_payload t version e tag
  rw [hbytes] at hpayload
  have hpointer := hcell.result_pointer hpayload hp
  rw [Address.add_zero] at hpointer
  rw [hpointer, Address.ofNat_toNat]

theorem result_decodePayload {value : LuaValue} {tag : UInt8} (limit : Nat)
    (htag : tag ∈ value.tags version) (hfits : value.Fits t version)
    (hcell : m.Holds a (value.cell t version e tag))
    (hobject : ∀ o bs, value.object? t version e = some (o, bs) →
      o ≠ .null ∧ 8 ∣ o.toNat ∧ o.toNat + bs.length ≤ UInt64.size ∧ m.Holds o bs) :
    (Decoder.decodePayload ⟨t, version, limit⟩ tag a).result m = .ok (value.decoded limit) := by
  have hpayload := value.cell_payload t version e tag
  have hclass := LuaValue.classify_of_mem_tags version htag
  -- the tag decides how the payload is read, and the cell and the object give what is read
  cases value with
  | nil =>
    rw [Decoder.decodePayload, hclass]
    rfl
  | boolean b =>
    rw [Decoder.decodePayload, hclass]
    cases version with
    | v54 => cases b <;> rfl
    | v51 | v52 | v53 =>
      have hscalar := hcell.result_scalar (p := .i32) hpayload (by cases b <;> decide)
      rw [Address.add_zero] at hscalar
      simp only [LuaValue.tag]
      rw [Peek.result_decodeScalar _ hscalar]
      cases b <;> rfl
  | lightUserData p =>
    rw [Decoder.decodePayload, hclass]
    simp only [LuaValue.tag]
    rw [Peek.result_decodePointer _ (hcell.result_payload rfl hfits)]
    rfl
  | float x =>
    have hscalar := hcell.result_encode (p := .f64) (x := x) hpayload
    rw [Address.add_zero] at hscalar
    rw [Decoder.decodePayload, hclass]
    simp only [LuaValue.tag]
    rw [Peek.result_decodeScalar _ hscalar]
    rfl
  | integer n =>
    have hscalar := hcell.result_encode (p := .i64) (x := n) hpayload
    rw [Address.add_zero] at hscalar
    rw [Decoder.decodePayload, hclass]
    simp only [LuaValue.tag]
    rw [Peek.result_decodeScalar _ hscalar]
    rfl
  | string text kind p =>
    rcases hobject p _ rfl with ⟨hnull, haligned, htop, hholds⟩
    rw [Peek.result_decodePayload_string limit hclass (hcell.result_payload rfl hfits.1)]
    apply hholds.result_decodeString limit hnull haligned htop hfits.2
    apply LuaValue.kind_of_mem_tags htag
  | object kind p =>
    rw [Peek.result_decodePayload_object limit hclass (hcell.result_payload rfl hfits)]
    split
    . next hclosure =>
      rcases hclosure with ⟨rfl, rfl | rfl⟩
      . rcases hobject p _ rfl with ⟨hnull, haligned, htop, hholds⟩
        apply hholds.result_decodeClosure limit haligned htop
      . rcases hobject p _ rfl with ⟨hnull, haligned, htop, hholds⟩
        apply hholds.result_decodeClosure limit haligned htop
    . rfl

end Memory.Holds

structure Snapshot.Places (s : Snapshot) (a : Address) (bs : List UInt8) : Prop where
  aligned : 8 ∣ a.toNat
  below : a.toNat + bs.length ≤ UInt64.size
  lays : s.Lays a bs

theorem Snapshot.Places.holds {s : Snapshot} {a : Address} {bs : List UInt8}
    (h : s.Places a bs) : s.memory.Holds a bs :=
  h.lays.holds h.below

theorem LuaValue.isError_decoded (limit : Nat) (value : LuaValue) :
    (value.decoded limit).isError = false := by
  cases value <;> rfl

namespace Decoder

theorem result_readValue_of_places {s : Snapshot} {version : Version} {e : Surroundings}
    {value : LuaValue} {tag : UInt8} {cell : Address} (limit : Nat)
    (htag : tag ∈ value.tags version) (hfits : value.Fits s.target version)
    (hcell : s.Places cell (value.cell s.target version e tag))
    (hobject : ∀ a bs, value.object? s.target version e = some (a, bs) →
      a ≠ .null ∧ s.Places a bs) :
    (readValue ⟨s.target, version, limit⟩ cell).result s.memory = ⟨value.decoded limit, cell⟩ := by
  have hrange : (0 : Int) ≤ tag.toNat ∧ (tag.toNat : Int) < 256 := by
    have := tag.toNat_lt
    omega
  have hread := hcell.holds.result_readTag limit hcell.aligned hcell.below
  have hpayload := hcell.holds.result_decodePayload limit htag hfits (by
    intro a bs h
    rcases hobject a bs h with ⟨hnull, hplaces⟩
    exact ⟨hnull, hplaces.aligned, hplaces.below, hplaces.holds⟩)
  have herror := value.isError_decoded limit
  rw [readValue, Peek.result_bind, hread]
  simp only [hrange, and_self, if_true, Int.toNat_natCast, UInt8.ofNat_toNat]
  rw [decodeTagged, Peek.result_bind, hpayload]
  show (Value.ofPayload (value.decoded limit)).withCell cell = _
  unfold Value.withCell
  rw [if_neg]
  . rfl
  . show ¬(value.decoded limit).isError = true
    rw [herror]
    simp

theorem readValue_big_endian_string :
    let t : Target := ⟨.four, .big⟩
    let value := LuaValue.string "naïve" .short ⟨0x2000⟩
    let s := ((Snapshot.empty t).addRegion ⟨0x2000⟩
      (stringObject t .v53 .blank "naïve" .short).toArray).addRegion ⟨0x1000⟩
      (value.cell t .v53 .blank 0x44).toArray
    (readValue ⟨t, .v53, defaultMaxString⟩ ⟨0x1000⟩).result s.memory =
      ⟨.string "naïve" ⟨0x2000⟩ .short, ⟨0x1000⟩⟩ := by
  intro t value s
  have hlen := length_stringObject t .v53 .blank "naïve" .short
  have hsize : t.width.contentOffset + "naïve".utf8ByteSize + 1 = 23 := by decide
  have hcell : (value.cell t .v53 .blank 0x44).length = 12 := by decide
  have htag : 0x44 ∈ value.tags .v53 := by decide
  have hfits : value.Fits s.target .v53 := ⟨by decide, by decide⟩
  have hbelow : (Address.mk 0x1000).toNat + (value.cell t .v53 .blank 0x44).length ≤
      UInt64.size := by
    rw [hcell]
    decide
  have hplaced : s.Places ⟨0x1000⟩ (value.cell t .v53 .blank 0x44) :=
    ⟨by decide, hbelow, Snapshot.lays_addRegion _ _ _⟩
  have hobject : s.Places ⟨0x2000⟩ (stringObject t .v53 .blank "naïve" .short) := by
    refine ⟨by decide, by rw [hlen, hsize]; decide, ?_⟩
    apply (Snapshot.lays_addRegion _ _ _).addRegion
    intro i hi j hj
    simp only [List.size_toArray, hcell, hlen, hsize] at hi hj
    have hbase : (Address.mk 0x2000).toNat = 0x2000 := rfl
    have hother : (Address.mk 0x1000).toNat = 0x1000 := rfl
    have htop : 0x2000 + 23 < UInt64.size := by decide
    rw [Address.toNat_add_of_lt] <;> omega
  apply result_readValue_of_places defaultMaxString htag hfits hplaced
  intro a bs h
  cases h
  exact ⟨by decide, hobject⟩

end Decoder

end LuaScope
