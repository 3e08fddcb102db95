import Mathlib.Tactic.TFAE
import LuaScope.Proofs.Image
import LuaScope.Proofs.ObjectHeader
import LuaScope.Proofs.Positions

/-!
This module contains where the parts of a cell and the cells of an array are found. The payload is
taken from the cell as it is given while the tag is looked for behind the next multiple of eight, so
that both are of one cell exactly if it is aligned. The values of an array are those of its cells,
and none of them has a part in another one.
-/

namespace LuaScope

theorem Address.dvd_alignUp_eight (a : Address) : 8 ∣ (a.alignUp 8).toNat :=
  dvd_alignUp a (n := 8) (by decide)

theorem Address.alignUp_eight_of_dvd {a : Address} (h : 8 ∣ a.toNat) : a.alignUp 8 = a :=
  alignUp_of_dvd (n := 8) (by decide) h

theorem Address.toNat_alignUp_eight {a : Address} (h : a.toNat + 16 ≤ UInt64.size) :
    (a.alignUp 8).toNat = (a.toNat + 7) / 8 * 8 := by
  have halign := toNat_alignUp a (k := 3) (by decide)
  have hmin : min (a.toNat + (2 ^ 3 - 1)) (UInt64.size - 1) = a.toNat + 7 := by omega
  rw [hmin] at halign
  exact halign

theorem Snapshot.read_eq_none_of_lt {t : Target} {r : Region} {a : Address} {n : Nat} (hn : n ≠ 0)
    (h : r.base.toNat + r.bytes.size < a.toNat + n) :
    (Snapshot.mk t [r]).memory.read a n = none := by
  show (Snapshot.mk t [r]).read a n = none
  unfold read locate
  rw [if_neg hn, List.findSome?_cons, List.findSome?_nil]
  cases hoffset : r.offset? a with
  | none => rfl
  | some offset =>
    rw [Region.offset?_eq_some_iff] at hoffset
    show (if offset + n ≤ r.bytes.size then some (r.window offset n) else none) = none
    rw [if_neg (by omega)]

namespace Decoder

theorem readTag_alignUp (d : Decoder) (cell : Address) :
    d.readTag cell = d.readTag (cell.alignUp 8) := by
  have hskip : (Cursor.mk d.target cell).skip .u64 =
      (Cursor.mk d.target (cell.alignUp 8)).skip .u64 := by
    have h := Cursor.skip_add d.target .u64 (n := 0) cell.dvd_alignUp_eight (Address.toNat_lt _)
    rw [Address.add_zero] at h
    rw [h]
    rfl
  unfold readTag
  rw [hskip]

theorem result_readValue_eq (m : Memory) (d : Decoder) {cell : Address}
    (h : cell.toNat + 16 ≤ UInt64.size) :
    (d.readValue cell).result m =
      match tag? m d (cell.alignUp 8) with
      | none => Value.error (DecodeFault.tagUnreadable cell).message
      | some raw =>
        if 0 ≤ raw ∧ raw < 256 then
          (d.decodeTagged (UInt8.ofNat raw.toNat) cell cell).result m
        else Value.error (DecodeFault.tagInvalid raw cell).message := by
  have hplace := Address.toNat_alignUp_eight h
  have htag := result_readTag_eq m d cell.dvd_alignUp_eight (by omega)
  rw [readValue, readTag_alignUp, Peek.result_bind, htag]
  cases tag? m d (cell.alignUp 8) with
  | none => rfl
  | some raw =>
    simp only
    split <;> rfl

theorem result_readValue_of_tag? {m : Memory} {d : Decoder} {cell : Address} {tag : UInt8}
    (hcell : 8 ∣ cell.toNat) (h : cell.toNat + 16 ≤ UInt64.size)
    (htag : tag? m d cell = some (tag.toNat : Int)) :
    (d.readValue cell).result m = (d.decodeTagged tag cell cell).result m := by
  have hlt := tag.toNat_lt
  rw [result_readValue_eq m d h, Address.alignUp_eight_of_dvd hcell, htag]
  show (if _ then _ else _) = _
  rw [if_pos (by omega), Int.toNat_natCast, UInt8.ofNat_toNat]

theorem tag?_eq_none_of_read {m : Memory} {d : Decoder} {cell : Address}
    (h : m.read (cell + 8) (tagType d.version).size = none) : tag? m d cell = none := by
  have hscalar : m.scalar? d.target.order (tagType d.version) (cell + 8) = none := by
    rw [Memory.scalar?, h]
    rfl
  rcases d with ⟨t, version, limit⟩
  cases version with
  | v54 => exact congrArg (Option.map fun (tag : UInt8) => (tag.toNat : Int)) hscalar
  | v51 | v52 | v53 => exact congrArg (Option.map Int32.toInt) hscalar

def loneTag (d : Decoder) (a : Address) : Snapshot :=
  ⟨d.target, [⟨a, (d.target.order.encode (tagType d.version).size 0).toArray⟩]⟩

theorem tag?_loneTag (d : Decoder) {cell : Address} (h : cell.toNat + 16 ≤ UInt64.size) :
    tag? (d.loneTag (cell + 8)).memory d cell = some ((0 : UInt8).toNat : Int) := by
  have hfield : d.target.order.encode (tagType d.version).size 0 <+:
      (d.target.order.encode (tagType d.version).size 0).drop 0 := List.prefix_rfl
  have hlays : (d.loneTag (cell + 8)).Lays (cell + 8)
      (d.target.order.encode (tagType d.version).size 0) :=
    Snapshot.lays_addRegion (.empty d.target) _ _
  have hplace := Address.toNat_add_of_lt (a := cell) (n := 8) (by omega)
  have hsize : (tagType d.version).size ≤ 4 := by
    cases d.version <;> decide
  have hholds := hlays.holds (by rw [ByteOrder.length_encode, hplace]; omega)
  have hscalar := hholds.result_scalar hfield (ByteOrder.capacity_pos _)
  rw [Peek.result_scalar_eq, Address.add_zero] at hscalar
  rcases d with ⟨t, version, limit⟩
  cases version with
  | v54 => exact congrArg (Option.map fun (tag : UInt8) => (tag.toNat : Int)) hscalar
  | v51 | v52 | v53 => exact congrArg (Option.map Int32.toInt) hscalar

theorem tag?_loneTag_alignUp (d : Decoder) {cell : Address} (hcell : ¬8 ∣ cell.toNat)
    (h : cell.toNat + 16 ≤ UInt64.size) :
    tag? (d.loneTag (cell + 8)).memory d (cell.alignUp 8) = none := by
  have hplace := Address.toNat_alignUp_eight h
  have hbase := Address.toNat_add_of_lt (a := cell) (n := 8) (by omega)
  have hread := Address.toNat_add_of_lt (a := cell.alignUp 8) (n := 8) (by omega)
  have hpos : (tagType d.version).size ≠ 0 := by
    cases d.version <;> decide
  apply tag?_eq_none_of_read
  apply Snapshot.read_eq_none_of_lt hpos
  rw [List.size_toArray, ByteOrder.length_encode]
  show (cell + 8).toNat + _ < _
  omega

theorem result_decodeTagged_zero (m : Memory) (d : Decoder) (cell : Address) :
    (d.decodeTagged 0 cell cell).result m = ⟨.nil, cell⟩ := by
  rcases d with ⟨t, version, limit⟩
  cases version <;> rfl

/--
The tag of a value is the one behind its payload, whatever the memory is, exactly if the cell is
aligned. In any other cell it is taken from the next aligned cell.
-/
theorem tag_behind_payload_tfae (d : Decoder) {cell : Address}
    (h : cell.toNat + 16 ≤ UInt64.size) :
    (∀ m : Memory, (d.readValue cell).result m =
      match tag? m d (cell.alignUp 8) with
      | none => Value.error (DecodeFault.tagUnreadable cell).message
      | some raw =>
        if 0 ≤ raw ∧ raw < 256 then
          (d.decodeTagged (UInt8.ofNat raw.toNat) cell cell).result m
        else Value.error (DecodeFault.tagInvalid raw cell).message) ∧
    List.TFAE [
      8 ∣ cell.toNat,
      ∀ (m : Memory) (tag : UInt8), tag? m d cell = some (tag.toNat : Int) →
        (d.readValue cell).result m = (d.decodeTagged tag cell cell).result m,
      ∀ (s : Snapshot) (tag : UInt8), s.target = d.target →
        tag? s.memory d cell = some (tag.toNat : Int) →
          (d.readValue cell).result s.memory = (d.decodeTagged tag cell cell).result s.memory] := by
  refine ⟨fun m => result_readValue_eq m d h, ?_⟩
  tfae_have 1 → 2 := by
    intro hcell m tag
    apply result_readValue_of_tag? hcell h
  tfae_have 2 → 3 := by
    intro hlaw s tag _
    apply hlaw
  tfae_have 3 → 1 := by
    intro hlaw
    by_contra hcell
    have hvalue := hlaw (d.loneTag (cell + 8)) 0 rfl (d.tag?_loneTag h)
    rw [result_readValue_eq _ d h, d.tag?_loneTag_alignUp hcell h, result_decodeTagged_zero]
      at hvalue
    have herror := congrArg Value.isError hvalue
    contradiction
  tfae_finish

theorem tag_not_behind_payload :
    let d : Decoder := ⟨⟨.four, .big⟩, .v54, 32768⟩
    let cell : Address := ⟨0x1004⟩
    cell.toNat + 16 ≤ UInt64.size ∧ ¬∀ (s : Snapshot) (tag : UInt8), s.target = d.target →
      tag? s.memory d cell = some (tag.toNat : Int) →
        (d.readValue cell).result s.memory = (d.decodeTagged tag cell cell).result s.memory := by
  intro d cell
  have h : cell.toNat + 16 ≤ UInt64.size := by decide
  have halign := (tag_behind_payload_tfae d h).2.out 0 2
  refine ⟨h, ?_⟩
  rw [← halign]
  decide

/--
A cell that is aligned to four bytes only. The number behind its tag is taken for the tag.
-/
theorem foreign_tag_in_unaligned_cell :
    let d : Decoder := ⟨⟨.four, .little⟩, .v53, 32768⟩
    let cell : Address := ⟨0x1004⟩
    let m := ((Snapshot.empty d.target).addRegion cell
      #[42, 0, 0, 0, 0, 0, 0, 0, 0x13, 0, 0, 0, 0x03, 0, 0, 0]).memory
    cell.toNat + 16 ≤ UInt64.size ∧ tag? m d cell = some ((0x13 : UInt8).toNat : Int) ∧
    (d.decodeTagged 0x13 cell cell).result m = ⟨.number (Double.ofInt 42) .integer, cell⟩ ∧
    (d.readValue cell).result m = ⟨.number ⟨42⟩ .float, cell⟩ ∧
    (d.readValue cell).result m ≠ (d.decodeTagged 0x13 cell cell).result m := by
  refine ⟨?_, ?_, ?_, ?_, ?_⟩ <;> decide

def cellSteps (d : Decoder) : List Cursor.Step :=
  [.skip .u64, .read (tagType d.version), .alignTo 8]

theorem position_cellSteps (d : Decoder) {cell : Address} (hcell : 8 ∣ cell.toNat)
    (h : cell.toNat + 24 ≤ UInt64.size) :
    (d.cellSteps.foldl Cursor.after ⟨d.target, cell⟩).position = cell + 16 := by
  let n := roundUp 8 (tagType d.version).size + (tagType d.version).size
  have htag : roundUp 8 (tagType d.version).size = 8 := by
    cases d.version <;> rfl
  have hend : roundUp n 8 = 16 := by
    unfold n
    cases d.version <;> rfl
  have hpayload := Cursor.skip_add d.target .u64 (n := 0) hcell cell.toNat_lt
  have hskip := Cursor.skip_add d.target (tagType d.version) (n := 8) hcell (by omega)
  have halign := Address.alignUp_add (n := n) (Nat.dvd_refl 8) hcell (by omega)
  rw [Address.add_zero] at hpayload
  show ((((Cursor.mk d.target cell).skip .u64).skip (tagType d.version)).align 8).position = _
  rw [hpayload]
  show (((Cursor.mk d.target (cell + 8)).skip (tagType d.version)).align 8).position = _
  rw [hskip]
  rw [hend] at halign
  exact halign

theorem stride_eq (d : Decoder) : d.stride = 16 := by
  have h := d.position_cellSteps (show 8 ∣ Address.null.toNat by decide) (by decide)
  exact congrArg Address.toNat h

theorem toList_readCells (m : Memory) (d : Decoder) (count : Nat) (cell : Address)
    (out : Array Value) :
    ((d.readCells count cell out).result m).toList =
      out.toList ++ (List.range count).map fun i => (d.readValue (cell + 16 * i)).result m := by
  induction count generalizing cell out with
  | zero =>
    rw [List.range_zero, List.map_nil, List.append_nil]
    rfl
  | succ count ih =>
    have hnext (i : Nat) : cell + (16 : Nat) + 16 * i = cell + 16 * (i + 1) := by
      rw [Address.add_add, Nat.mul_succ, Nat.add_comm]
    unfold readCells
    rw [Peek.result_bind, ih, stride_eq, Array.toList_push, List.append_assoc,
      List.range_succ_eq_map, List.map_cons, List.map_map, Nat.mul_zero, Address.add_zero]
    simp only [hnext]
    rfl

theorem toList_readValues (m : Memory) (d : Decoder) (a : Address) (count : Nat) :
    ((d.readValues a count).result m).toList =
      (List.range (min count 65536)).map fun i => (d.readValue (a + 16 * i)).result m := by
  have hcells := toList_readCells m d (min count 65536) a #[]
  rw [List.nil_append] at hcells
  rw [← hcells]
  unfold readValues
  split <;> simp only [Peek.result_bind] <;> rfl

theorem size_readValues (m : Memory) (d : Decoder) (a : Address) (count : Nat) :
    ((d.readValues a count).result m).size = min count 65536 := by
  rw [← Array.length_toList, toList_readValues, List.length_map, List.length_range]

theorem getElem?_readValues (m : Memory) (d : Decoder) (a : Address) {count i : Nat}
    (h : i < min count 65536) :
    ((d.readValues a count).result m)[i]? = some ((d.readValue (a + 16 * i)).result m) := by
  rw [← Array.getElem?_toList, toList_readValues, List.getElem?_map, List.getElem?_range h]
  rfl

theorem readValues_pointwise (m : Memory) (d : Decoder) (a : Address) (count : Nat) :
    let values (m : Memory) := (d.readValues a count).result m
    (values m).size = min count 65536 ∧
    (∀ i < min count 65536, (values m)[i]? = some ((d.readValue (a + 16 * i)).result m)) ∧
    (∀ cell : Address, 8 ∣ cell.toNat → cell.toNat + 24 ≤ UInt64.size →
      (d.cellSteps.foldl Cursor.after ⟨d.target, cell⟩).position = cell + 16) ∧
    ∀ (other : Memory) (i : Nat),
      (∀ request ∈ (d.readValue (a + 16 * i)).reads m,
        m.read request.1 request.2 = other.read request.1 request.2) →
      (values other)[i]? = (values m)[i]? := by
  intro values
  refine ⟨size_readValues m d a count, fun i => getElem?_readValues m d a,
    fun cell => d.position_cellSteps, ?_⟩
  intro other i hanswers
  by_cases hi : i < min count 65536
  . show ((d.readValues a count).result other)[i]? = ((d.readValues a count).result m)[i]?
    rw [getElem?_readValues m d a hi, getElem?_readValues other d a hi,
      Peek.result_congr hanswers]
  . have hnone (m : Memory) : (values m)[i]? = none := by
      rw [Array.getElem?_eq_none_iff]
      show ((d.readValues a count).result m).size ≤ i
      rw [size_readValues]
      omega
    rw [hnone, hnone]

theorem readValues_of_missing_cell :
    let d : Decoder := ⟨.native, .v53, 16⟩
    let zeros : Memory := ⟨.native, fun _ n => some (.replicate n 0)⟩
    let half : Memory := ⟨.native, fun a n =>
      if a.toNat < 0x1010 then none else some (.replicate n 0)⟩
    (∀ request ∈ (d.readValue ⟨0x1010⟩).reads zeros,
      zeros.read request.1 request.2 = half.read request.1 request.2) ∧
    ((d.readValues ⟨0x1000⟩ 3).result half)[1]? =
      ((d.readValues ⟨0x1000⟩ 3).result zeros)[1]? ∧
    ((d.readValues ⟨0x1000⟩ 3).result half)[0]? ≠
      ((d.readValues ⟨0x1000⟩ 3).result zeros)[0]? ∧
    (d.cellSteps.foldl Cursor.after ⟨d.target, ⟨0x1010⟩⟩).position = ⟨0x1020⟩ := by
  intro d zeros half
  have hanswers : ∀ request ∈ (d.readValue ⟨0x1010⟩).reads zeros,
      zeros.read request.1 request.2 = half.read request.1 request.2 := by
    decide
  rcases readValues_pointwise zeros d ⟨0x1000⟩ 3 with ⟨-, hzeros, hwalk, hisolated⟩
  refine ⟨hanswers, hisolated half 1 hanswers, ?_, hwalk ⟨0x1010⟩ (by decide) (by decide)⟩
  rw [hzeros 0 (by decide), (readValues_pointwise half d ⟨0x1000⟩ 3).2.1 0 (by decide)]
  decide

end Decoder

end LuaScope
