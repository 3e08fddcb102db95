import LuaScope.Proofs.Layout
import LuaScope.Proofs.ObjectHeader

/-!
This module contains the values that a program can have and the bytes that the runtime keeps for
them: the cell with the payload and the tag, and the string or closure that the payload points to.
-/

namespace LuaScope

inductive LuaValue where
  | nil
  | boolean (b : Bool)
  | lightUserData (pointer : Address)
  | float (x : Double)
  | integer (n : Int64)
  | string (text : String) (kind : StringKind) (address : Address)
  | object (kind : ObjectKind) (address : Address)
  deriving DecidableEq, Repr

/--
Whatever the runtime keeps beside a value that has no part in what the value is.
-/
structure Surroundings where
  padding : Nat → UInt8
  next : Nat
  tag : UInt8
  marked : UInt8
  extra : UInt8
  /-- The byte of a long string in which a short one has its length. -/
  shortLength : UInt8
  hash : UInt32
  link : Nat
  upvalues : UInt8
  body : List Nat

def Surroundings.blank : Surroundings := ⟨fun _ => 0, 0, 0, 0, 0, 0, 0, 0, 0, []⟩

def StringKind.hasByteLength (kind : StringKind) (version : Version) : Bool :=
  kind = .short ∧ (version = .v53 ∨ version = .v54)

variable (t : Target) (version : Version) (e : Surroundings)

def stringFields (kind : StringKind) (length : Nat) : List (List UInt8) :=
  let pointer := t.order.encode t.width.bytes
  let hash := t.order.encode 4 e.hash.toNat
  let size := pointer (if kind.hasByteLength version then e.link else length)
  let short := if kind.hasByteLength version then UInt8.ofNat length else e.shortLength
  match version with
  | .v51 | .v52 => [pointer e.next, [e.tag], [e.marked], [e.extra], hash, size]
  | .v53 | .v54 => [pointer e.next, [e.tag], [e.marked], [e.extra], [short], hash, size]

/--
A string object. Its bytes are aligned to eight before 5.4, and a zero follows them.
-/
def stringObject (text : String) (kind : StringKind) : List UInt8 :=
  let header := layOut e.padding (stringFields t version e kind text.utf8ByteSize)
  let aligned := if version = .v54 then header else padTo e.padding (roundUp header.length 8) header
  aligned ++ Utf8.encode text ++ [0]

theorem stringFields_pos (kind : StringKind) (length : Nat) :
    ∀ field ∈ stringFields t version e kind length, 0 < field.length := by
  have hbytes : 0 < t.width.bytes := by cases t.width <;> decide
  cases version <;> simp [stringFields, hbytes]

theorem length_layOut_stringFields (kind : StringKind) (length : Nat) :
    (layOut e.padding (stringFields t version e kind length)).length = t.width.contentOffset := by
  rw [length_layOut]
  . rcases t with ⟨width, order⟩
    cases version <;> cases width <;> simp [stringFields] <;> rfl
  . apply stringFields_pos t version e kind length

theorem stringObject_eq (text : String) (kind : StringKind) :
    stringObject t version e text kind =
      layOut e.padding (stringFields t version e kind text.utf8ByteSize) ++
        Utf8.encode text ++ [0] := by
  have hlen := length_layOut_stringFields t version e kind text.utf8ByteSize
  have hround := t.width.roundUp_contentOffset
  unfold stringObject
  split
  . rfl
  . simp only [hlen, hround]
    rw [← hlen, padTo_length]

theorem length_stringObject (text : String) (kind : StringKind) :
    (stringObject t version e text kind).length =
      t.width.contentOffset + text.utf8ByteSize + 1 := by
  rw [stringObject_eq, List.length_append, List.length_append, length_layOut_stringFields,
    Utf8.length_encode]
  rfl

theorem stringObject_content (text : String) (kind : StringKind) :
    Utf8.encode text <+: (stringObject t version e text kind).drop t.width.contentOffset := by
  have hlen := length_layOut_stringFields t version e kind text.utf8ByteSize
  rw [stringObject_eq, List.append_assoc, List.drop_left' hlen]
  apply List.prefix_append

theorem prefix_drop_stringObject {text : String} {kind : StringKind} {field : List UInt8} {o : Nat}
    (ho : o ≤ t.width.contentOffset)
    (h : field <+: (layOut e.padding (stringFields t version e kind text.utf8ByteSize)).drop o) :
    field <+: (stringObject t version e text kind).drop o := by
  have hlen := length_layOut_stringFields t version e kind text.utf8ByteSize
  rw [stringObject_eq, List.append_assoc, List.drop_append_of_le_length (by omega)]
  apply List.IsPrefix.trans h (List.prefix_append _ _)

theorem stringObject_size {kind : StringKind} (h : kind.hasByteLength version = false)
    (text : String) :
    t.order.encode t.width.bytes text.utf8ByteSize <+:
      (stringObject t version e text kind).drop t.width.sizeOffset := by
  apply prefix_drop_stringObject
  . unfold PointerWidth.sizeOffset PointerWidth.contentOffset
    omega
  . have hpos := stringFields_pos t version e kind text.utf8ByteSize
    rcases t with ⟨width, order⟩
    cases version with
    | v51 | v52 =>
      apply prefix_drop_layOut e.padding hpos (i := 5)
      . simp [stringFields, h]
      . cases width <;> simp [stringFields] <;> rfl
    | v53 | v54 =>
      apply prefix_drop_layOut e.padding hpos (i := 6)
      . simp [stringFields, h]
      . cases width <;> simp [stringFields] <;> rfl

theorem stringObject_short {kind : StringKind} (h : kind.hasByteLength version = true)
    (text : String) :
    [UInt8.ofNat text.utf8ByteSize] <+:
      (stringObject t version e text kind).drop (t.width.bytes + 3) := by
  apply prefix_drop_stringObject
  . unfold PointerWidth.contentOffset
    omega
  . have hpos := stringFields_pos t version e kind text.utf8ByteSize
    rcases t with ⟨width, order⟩
    cases version with
    | v51 | v52 => simp [StringKind.hasByteLength] at h
    | v53 | v54 =>
      apply prefix_drop_layOut e.padding hpos (i := 4)
      . simp [stringFields, h]
      . cases width <;> simp [stringFields] <;> rfl

def closureObject (isExternal : Bool) : List UInt8 :=
  let pointer := t.order.encode t.width.bytes
  layOut e.padding
    ([pointer e.next, [e.tag], [e.marked], [if isExternal then 1 else 0], [e.upvalues]] ++
      e.body.map pointer)

theorem closureObject_mark (isExternal : Bool) :
    [if isExternal then 1 else 0] <+:
      (closureObject t e isExternal).drop (t.width.bytes + 2) := by
  have hbytes : 0 < t.width.bytes := by cases t.width <;> decide
  apply prefix_drop_layOut e.padding (i := 3)
  . simp [hbytes]
  . simp
  . rcases t with ⟨width, order⟩
    cases width <;> simp <;> rfl

theorem le_length_closureObject (isExternal : Bool) :
    t.width.bytes + 3 ≤ (closureObject t e isExternal).length := by
  have hmark := (closureObject_mark t e isExternal).length_le
  simp only [List.length_drop, List.length_singleton] at hmark
  omega

namespace LuaValue

def payload : LuaValue → List UInt8
  | .nil => []
  | .boolean b =>
    match version with
    | .v54 => []
    | _ => t.order.encode 4 (if b then 1 else 0)
  | .lightUserData p | .string _ _ p | .object _ p => t.order.encode t.width.bytes p.toNat
  | .float x => t.order.encode 8 x.bits.toNat
  | .integer n => t.order.encode 8 n.toBitVec.toNat

/--
The tags that a value may have, of which there is none for a value that a version does not have.
Bit 6 is set for objects in a cell, but not in all images.
-/
def tags : LuaValue → List UInt8
  | .nil =>
    match version with
    | .v54 => [0x00, 0x10, 0x20]
    | _ => [0x00]
  | .boolean b =>
    match version with
    | .v54 => [if b then 0x11 else 0x01]
    | _ => [0x01]
  | .lightUserData _ => [0x02]
  | .float _ =>
    match version with
    | .v54 => [0x13]
    | _ => [0x03]
  | .integer _ =>
    match version with
    | .v51 | .v52 => []
    | .v53 => [0x13]
    | .v54 => [0x03]
  | .string text kind _ =>
    match version with
    | .v51 => if kind = (if 40 < text.utf8ByteSize then .long else .short) then [0x04] else []
    | _ => if kind = .long then [0x14, 0x54] else [0x04, 0x44]
  | .object kind _ =>
    match version with
    | .v51 =>
      match kind with
      | .table => [0x05]
      | .luaFunction => [0x06]
      | .externalFunction => []
      | .externalClosure => [0x06]
      | .userData => [0x07]
      | .thread => [0x08]
    | _ =>
      match kind with
      | .table => [0x05, 0x45]
      | .luaFunction => [0x06, 0x46]
      | .externalFunction => [0x16]
      | .externalClosure => [0x26, 0x66]
      | .userData => [0x07, 0x47]
      | .thread => [0x08, 0x48]

def cell (value : LuaValue) (tag : UInt8) : List UInt8 :=
  layOut e.padding
    [padTo e.padding 8 (value.payload t version),
      if version = .v54 then [tag] else t.order.encode 4 tag.toNat]

def object? : LuaValue → Option (Address × List UInt8)
  | .string text kind address => some (address, stringObject t version e text kind)
  | .object .luaFunction address =>
    if version = .v51 then some (address, closureObject t e false) else none
  | .object .externalClosure address =>
    if version = .v51 then some (address, closureObject t e true) else none
  | _ => none

def Fits : LuaValue → Prop
  | .nil | .boolean _ | .float _ | .integer _ => True
  | .lightUserData p | .object _ p => p.toNat < ByteOrder.capacity t.width.bytes
  | .string text kind p =>
    p.toNat < ByteOrder.capacity t.width.bytes ∧
      text.utf8ByteSize <
        ByteOrder.capacity (if kind.hasByteLength version then 1 else t.width.bytes)

def decoded (limit : Nat) : LuaValue → Payload
  | .nil => .nil
  | .boolean b => .boolean b
  | .lightUserData p => .lightUserData p
  | .float x => .number x .float
  | .integer n => .number (Double.ofInt n.toInt) .integer
  | .string text kind address =>
    let kept :=
      if text.utf8ByteSize ≤ limit then text
      else Utf8.decodeLossy ((Utf8.encode text).take limit)
    .string kept address kind
  | .object kind address => .object kind address

theorem length_payload_le (value : LuaValue) : (value.payload t version).length ≤ 8 := by
  have hbytes : t.width.bytes ≤ 8 := by cases t.width <;> decide
  cases value <;> cases version <;> simp [payload, hbytes]

theorem cell_pos (value : LuaValue) (tag : UInt8) :
    ∀ field ∈ [padTo e.padding 8 (value.payload t version),
      if version = .v54 then [tag] else t.order.encode 4 tag.toNat], 0 < field.length := by
  have hpad := length_padTo e.padding (value.length_payload_le t version)
  intro field hfield
  cases List.mem_cons.mp hfield with
  | inl h =>
    rw [h]
    omega
  | inr h =>
    rw [List.mem_singleton.mp h]
    split <;> simp

theorem cell_payload (value : LuaValue) (tag : UInt8) :
    value.payload t version <+: (value.cell t version e tag).drop 0 := by
  have hpad := length_padTo e.padding (value.length_payload_le t version)
  have hfield := prefix_drop_layOut e.padding (value.cell_pos t version e tag) (i := 0) (o := 0)
    rfl (by simp [extent, roundUp, hpad])
  apply List.IsPrefix.trans (List.prefix_append _ _) hfield

theorem cell_tag (value : LuaValue) (tag : UInt8) :
    (if version = .v54 then [tag] else t.order.encode 4 tag.toNat) <+:
      (value.cell t version e tag).drop 8 := by
  have hpad := length_padTo e.padding (value.length_payload_le t version)
  apply prefix_drop_layOut e.padding (value.cell_pos t version e tag) (i := 1) rfl
  simp only [List.take_succ_cons, List.take_zero, List.map_cons, List.map_nil, hpad]
  split <;> simp <;> rfl

theorem lt_length_cell (value : LuaValue) (tag : UInt8) :
    8 < (value.cell t version e tag).length := by
  have htag := (value.cell_tag t version e tag).length_le
  have hpos : 0 < (if version = .v54 then [tag] else t.order.encode 4 tag.toNat).length := by
    split <;> simp
  rw [List.length_drop] at htag
  omega

def tag : LuaValue → Tag
  | .nil => .nil
  | .boolean b =>
    match version with
    | .v54 => if b then .boolTrue else .boolFalse
    | _ => .boolean
  | .lightUserData _ => .lightUserData
  | .float _ => .float
  | .integer _ => .integer
  | .string _ kind _ =>
    match version with
    | .v51 => .string
    | _ => if kind = .long then .longString else .shortString
  | .object kind _ =>
    match kind with
    | .table => .table
    | .luaFunction => if version = .v51 then .function else .luaClosure
    | .externalFunction => .lightCFunction
    | .externalClosure => if version = .v51 then .function else .cClosure
    | .userData => .userData
    | .thread => .thread

theorem all_classify_tags (value : LuaValue) :
    (value.tags version).all fun raw => Tag.classify version raw == value.tag version := by
  cases value with
  | nil | lightUserData | float | integer =>
    cases version <;> simp only [tags, tag] <;> decide
  | boolean b =>
    cases version <;> simp only [tags, tag] <;> cases b <;> decide
  | string text kind address =>
    cases version with
    | v51 =>
      simp only [tags, tag]
      generalize (if 40 < text.utf8ByteSize then StringKind.long else .short) = expected
      cases kind <;> cases expected <;> decide
    | v52 | v53 | v54 =>
      simp only [tags, tag]
      cases kind <;> decide
  | object kind address =>
    cases version <;> simp only [tags, tag] <;> cases kind <;> decide

theorem classify_of_mem_tags {value : LuaValue} {raw : UInt8} (h : raw ∈ value.tags version) :
    Tag.classify version raw = value.tag version := by
  have hall := value.all_classify_tags version
  rw [List.all_eq_true] at hall
  apply eq_of_beq (hall raw h)

end LuaValue

end LuaScope
