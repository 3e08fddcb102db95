import LuaScope.Proofs.StringHeader

/-!
This module contains the proof that a value is decoded unless one of the reads that its tag calls for
fails, and that its tag alone says of what type it is, apart from the strings and functions of 5.1.
-/

namespace LuaScope

namespace Tag

def commonNumbers : List (UInt8 × Tag) := [
  (0x02, .lightUserData), (0x04, .shortString), (0x14, .longString), (0x05, .table),
  (0x06, .luaClosure), (0x16, .lightCFunction), (0x26, .cClosure), (0x07, .userData),
  (0x08, .thread)]

/--
The tags of each version, without the bit that marks collectable objects.
-/
def numbers : Version → List (UInt8 × Tag)
  | .v51 => [
    (0, .nil), (1, .boolean), (2, .lightUserData), (3, .float), (4, .string), (5, .table),
    (6, .function), (7, .userData), (8, .thread)]
  | .v52 => [(0x00, .nil), (0x01, .boolean), (0x03, .float)] ++ commonNumbers
  | .v53 => [(0x00, .nil), (0x01, .boolean), (0x03, .float), (0x13, .integer)] ++ commonNumbers
  | .v54 => [
    (0x00, .nil), (0x10, .nil), (0x20, .nil), (0x01, .boolFalse), (0x11, .boolTrue),
    (0x03, .integer), (0x13, .float)] ++ commonNumbers

/--
What a tag means, if it is one of its version. In 5.1 there is no bit for collectable objects.
-/
def meaning? (version : Version) (tag : UInt8) : Option Tag :=
  (numbers version).lookup (if version = .v51 then tag else tag &&& 0xBF)

theorem lookup_cons_eq_ite (tag raw : UInt8) (meaning : Tag) (rest : List (UInt8 × Tag)) :
    ((raw, meaning) :: rest).lookup tag = if tag = raw then some meaning else rest.lookup tag := by
  rw [List.lookup_cons]
  by_cases h : tag = raw
  . rw [if_pos h, beq_iff_eq.mpr h]
  . rw [if_neg h, beq_eq_false_iff_ne.mpr h]

theorem classify_eq (version : Version) (tag : UInt8) :
    classify version tag = (meaning? version tag).getD (.unknown tag) := by
  have hmask : tag &&& ~~~collectableBit = tag &&& 0xBF := rfl
  unfold classify meaning?
  rw [hmask]
  cases version with
  | v51 =>
    simp only [numbers, lookup_cons_eq_ite, List.lookup_nil, classify51, if_true]
  | v52 | v53 | v54 =>
    simp only [numbers, commonNumbers, List.cons_append, List.nil_append, lookup_cons_eq_ite,
      List.lookup_nil, classify52, classify53, classify54, classifyCommon, ite_or, reduceCtorEq,
      if_false]
    rfl

theorem classify_of_meaning? {version : Version} {tag : UInt8} {kind : Tag}
    (h : meaning? version tag = some kind) : classify version tag = kind := by
  rw [classify_eq, h, Option.getD_some]

theorem version_of_string {version : Version} {tag : UInt8}
    (h : meaning? version tag = some .string) : version = .v51 := by
  unfold meaning? at h
  cases version with
  | v51 => rfl
  | v52 | v53 | v54 =>
    simp only [numbers, commonNumbers, List.cons_append, List.nil_append, lookup_cons_eq_ite,
      List.lookup_nil, ite_eq_iff, Option.some.injEq, reduceCtorEq, and_false, or_false] at h

theorem meaning?_ne_unknown {version : Version} {tag raw : UInt8} :
    meaning? version tag ≠ some (.unknown raw) := by
  intro h
  unfold meaning? at h
  cases version with
  | v51 | v52 | v53 | v54 =>
    simp only [numbers, commonNumbers, List.cons_append, List.nil_append, lookup_cons_eq_ite,
      List.lookup_nil, ite_eq_iff, Option.some.injEq, reduceCtorEq, and_false, or_false] at h

end Tag

theorem Memory.Leads.isEmpty_iff {m : Memory} {a : Address} {wanted : Nat} {out : Array UInt8}
    (h : m.Leads a wanted out.toList) (hwanted : 0 < wanted) :
    out.isEmpty ↔ m.read a 1 = none := by
  rw [Array.isEmpty_iff_size_eq_zero, ← Array.length_toList]
  constructor
  . intro hempty
    have hstop := h.stops (by omega)
    rw [hempty, Address.add_zero, Memory.Readable, Option.not_isSome_iff_eq_none] at hstop
    exact hstop
  . intro hnone
    apply Nat.eq_zero_of_not_pos
    intro hpos
    have hfirst := h.spells 0 hpos
    rw [Address.add_zero, hnone] at hfirst
    contradiction

namespace StringHeader

theorem result_text_eq_none {m : Memory} (hm : m.Agrees) (h : StringHeader) (limit : Nat) :
    (h.text limit).result m = none ↔ 0 < min h.length limit ∧ m.read h.content 1 = none := by
  simp only [text, bytes, Peek.result_bind]
  cases hread : (Peek.bytes h.content (min h.length limit)).result m with
  | some all =>
    rcases hm _ _ _ hread with ⟨hlen, hspells⟩
    constructor
    . intro hmissing
      contradiction
    . intro hmissing
      have hfirst := hspells 0 (by omega)
      rw [Address.add_zero, hmissing.2] at hfirst
      contradiction
  | none =>
    have hleads := Peek.leading_leads hm h.content (min h.length limit)
    simp only [Peek.result_bind]
    generalize (Peek.leading h.content (min h.length limit)).result m = all at hleads ⊢
    have hcond : (all.isEmpty && decide (0 < min h.length limit)) = true ↔
        0 < min h.length limit ∧ m.read h.content 1 = none := by
      rw [Bool.and_eq_true, decide_eq_true_eq, and_comm]
      exact and_congr_right hleads.isEmpty_iff
    split
    . next htrue => exact iff_of_true rfl (hcond.mp htrue)
    . next hfalse => exact iff_of_false (Option.some_ne_none _) (fun h => hfalse (hcond.mpr h))

end StringHeader

namespace Decoder

inductive StringFault (d : Decoder) (m : Memory) (target : Address) (hint : Option Bool) : Prop where
  | null (h : target = .null)
  | header (h : (StringHeader.fieldsFrom m d.target d.version target).length? d.version hint = none)
  | content (n : Nat)
    (hlength : (StringHeader.fieldsFrom m d.target d.version target).length? d.version hint = some n)
    (hwanted : 0 < min n d.maxString)
    (h : m.read (StringHeader.contentAt d.version d.target.width target) 1 = none)

theorem stringFault_iff_of_length? {m : Memory} (d : Decoder) {target : Address}
    {hint : Option Bool} {n : Nat} (hnull : target ≠ .null)
    (hlength :
      (StringHeader.fieldsFrom m d.target d.version target).length? d.version hint = some n) :
    StringFault d m target hint ↔ 0 < min n d.maxString ∧
      m.read (StringHeader.contentAt d.version d.target.width target) 1 = none := by
  constructor
  . intro h
    cases h with
    | null h => exact absurd h hnull
    | header h =>
      rw [hlength] at h
      contradiction
    | content k hk hwanted h =>
      rw [hlength] at hk
      injection hk with hk
      subst hk
      exact ⟨hwanted, h⟩
  . intro h
    exact .content n hlength h.1 h.2

def PointerFault (d : Decoder) (m : Memory) (payload : Address) (fault : Address → Prop) : Prop :=
  m.read payload d.target.width.bytes = none ∨
    ∃ target, m.pointer? d.target payload = some target ∧ fault target

def PayloadFault (d : Decoder) (m : Memory) (kind : Tag) (payload : Address) : Prop :=
  match kind with
  | .nil | .boolFalse | .boolTrue | .unknown _ => False
  | .boolean => m.read payload 4 = none
  | .float | .integer => m.read payload 8 = none
  | .lightUserData | .table | .luaClosure | .lightCFunction | .cClosure | .userData | .thread =>
    m.read payload d.target.width.bytes = none
  | .string => d.PointerFault m payload fun target => StringFault d m target none
  | .shortString => d.PointerFault m payload fun target => StringFault d m target (some false)
  | .longString => d.PointerFault m payload fun target => StringFault d m target (some true)
  | .function => d.PointerFault m payload fun target =>
    m.read (Closure.markAt d.target.width target) 1 = none

inductive Undecodable (d : Decoder) (m : Memory) (cell : Address) : Prop where
  | tagUnreadable (h : m.read (cell + 8) (if d.version = .v54 then 1 else 4) = none)
  | tagInvalid (raw : Int) (htag : tag? m d cell = some raw) (h : ¬(0 ≤ raw ∧ raw < 256))
  | tagUnknown (tag : UInt8) (htag : tag? m d cell = some (tag.toNat : Int))
    (h : Tag.meaning? d.version tag = none)
  | payload (tag : UInt8) (kind : Tag) (htag : tag? m d cell = some (tag.toNat : Int))
    (hkind : Tag.meaning? d.version tag = some kind) (h : PayloadFault d m kind cell)

/--
The type that a tag selects, for the strings and functions of 5.1 together with their objects.
-/
def Selects (d : Decoder) (m : Memory) (kind : Tag) (payload : Address) (x : ExtendedType) : Prop :=
  match kind with
  | .nil => x = .nil
  | .boolFalse | .boolTrue | .boolean => x = .boolean
  | .lightUserData => x = .lightUserData
  | .float => x = .floatNumber
  | .integer => x = .integerNumber
  | .string => ∃ target n, m.pointer? d.target payload = some target ∧
    (StringHeader.fieldsFrom m d.target d.version target).length? d.version none = some n ∧
    x = if 40 < n then .longString else .shortString
  | .shortString => x = .shortString
  | .longString => x = .longString
  | .table => x = .table
  | .function => ∃ target mark, m.pointer? d.target payload = some target ∧
    m.byte? d.target (Closure.markAt d.target.width target) = some mark ∧
    x = if mark ≠ 0 then .externalClosure else .luaFunction
  | .luaClosure => x = .luaFunction
  | .lightCFunction => x = .externalFunction
  | .cClosure => x = .externalClosure
  | .userData => x = .userData
  | .thread => x = .thread
  | .unknown _ => False

theorem result_decodeString (m : Memory) (d : Decoder) {target : Address} (hint : Option Bool)
    (hnull : target ≠ .null) :
    (d.decodeString target hint).result m =
      match (StringHeader.read d.target d.version target hint).result m with
      | none => .error (.headerUnreadable target)
      | some header =>
        match (header.text d.maxString).result m with
        | none => .error (.contentUnreadable header.content)
        | some (text, _) =>
          .ok (.string text target (if header.isLong then .long else .short)) := by
  unfold decodeString
  simp only [Address.isNull_eq_false hnull, Bool.false_eq_true, if_false, Peek.result_bind]
  cases (StringHeader.read d.target d.version target hint).result m with
  | none => rfl
  | some header =>
    simp only [Peek.result_bind]
    cases (header.text d.maxString).result m with
    | none => rfl
    | some content =>
      rcases content with ⟨text, truncated⟩
      cases truncated <;> rfl

/--
A result is an error exactly if there is a fault, and else it is of a type that is selected.
-/
structure Settles (r : Except DecodeFault Payload) (fault : Prop) (selected : ExtendedType → Prop) :
    Prop where
  error : (∃ e, r = .error e) ↔ fault
  ok : ∀ p, r = .ok p → p.isError = false ∧ selected p.extendedType

theorem settles_error {e : DecodeFault} {fault : Prop} {selected : ExtendedType → Prop}
    (h : fault) : Settles (.error e) fault selected := by
  constructor
  . exact iff_of_true ⟨e, rfl⟩ h
  . intro p hp
    contradiction

theorem settles_ok {p : Payload} {fault : Prop} {selected : ExtendedType → Prop} (h : ¬fault)
    (hp : p.isError = false) (hselected : selected p.extendedType) :
    Settles (.ok p) fault selected := by
  constructor
  . apply iff_of_false _ h
    rintro ⟨e, he⟩
    contradiction
  . intro q hq
    injection hq with hq
    subst hq
    exact ⟨hp, hselected⟩

theorem Settles.not_fault {p : Payload} {fault : Prop} {selected : ExtendedType → Prop}
    (h : Settles (.ok p) fault selected) : ¬fault := by
  rw [← h.error]
  rintro ⟨e, he⟩
  contradiction

theorem Settles.withCell {r : Except DecodeFault Payload} {fault : Prop}
    {selected : ExtendedType → Prop} (h : Settles r fault selected) (cell : Address) :
    let value := (outcome r).withCell cell
    (value.isError = true ↔ fault) ∧ (value.isError = true → value.cell = .null) ∧
      (value.isError = false → value.cell = cell ∧ selected value.extendedType) := by
  cases r with
  | error e =>
    have hfault := h.error.mp ⟨e, rfl⟩
    refine ⟨iff_of_true rfl hfault, fun _ => rfl, ?_⟩
    intro hvalue
    contradiction
  | ok p =>
    rcases h.ok p rfl with ⟨hp, hselected⟩
    have hvalue : (outcome (.ok p)).withCell cell = ⟨p, cell⟩ := by
      unfold Value.withCell
      rw [if_neg]
      . rfl
      . exact Bool.eq_false_iff.mp hp
    intro value
    rw [show value = ⟨p, cell⟩ from hvalue]
    refine ⟨iff_of_false (Bool.eq_false_iff.mp hp) h.not_fault, ?_, fun _ => ⟨rfl, hselected⟩⟩
    intro herror
    exact absurd herror (Bool.eq_false_iff.mp hp)

theorem Settles.outcome {r : Except DecodeFault Payload} {fault : Prop}
    {selected : ExtendedType → Prop} (h : Settles r fault selected) :
    ((outcome r).isError = true ↔ fault) ∧ (outcome r).cell = .null := by
  cases r with
  | error e =>
    have hfault := h.error.mp ⟨e, rfl⟩
    exact ⟨iff_of_true rfl hfault, rfl⟩
  | ok p =>
    have hp : ¬p.isError = true := Bool.eq_false_iff.mp (h.ok p rfl).1
    exact ⟨iff_of_false hp h.not_fault, rfl⟩

def decoded (m : Memory) (d : Decoder) (cell : Address) : Except DecodeFault Payload :=
  match tag? m d cell with
  | none => .error (.tagUnreadable cell)
  | some raw =>
    if 0 ≤ raw ∧ raw < 256 then (d.decodePayload (UInt8.ofNat raw.toNat) cell).result m
    else .error (.tagInvalid raw cell)

theorem result_readValue (m : Memory) (d : Decoder) {cell : Address} (hcell : 8 ∣ cell.toNat)
    (h : cell.toNat + 8 < UInt64.size) :
    (d.readValue cell).result m = (outcome (decoded m d cell)).withCell cell := by
  rw [readValue, Peek.result_bind, result_readTag_eq m d hcell h, decoded]
  cases tag? m d cell with
  | none => rfl
  | some raw =>
    simp only
    split
    . rw [decodeTagged, Peek.result_bind]
      rfl
    . rfl

theorem Settles.of_selected {r : Except DecodeFault Payload} {fault : Prop}
    {selected other : ExtendedType → Prop} (h : Settles r fault selected)
    (hselected : ∀ x, selected x → other x) : Settles r fault other := by
  constructor
  . exact h.error
  . intro p hp
    exact ⟨(h.ok p hp).1, hselected _ (h.ok p hp).2⟩

section

variable {m : Memory} (hm : m.Agrees) (d : Decoder)

include hm

theorem settles_decodeScalar (p : Primitive) (what : String) (payload : Address)
    (build : p.Carrier → Payload) {x : ExtendedType}
    (hbuild : ∀ value, (build value).isError = false ∧ (build value).extendedType = x) :
    Settles ((d.decodeScalar p what payload build).result m) (m.read payload p.size = none)
      (· = x) := by
  rw [decodeScalar, Peek.result_bind, Peek.result_scalar_eq, ← hm.not_hasField,
    ← Memory.scalar?_eq_none (o := d.target.order)]
  cases m.scalar? d.target.order p payload with
  | none =>
    apply settles_error
    rfl
  | some value =>
    apply settles_ok
    . simp
    . exact (hbuild value).1
    . exact (hbuild value).2

theorem settles_decodePointer (what : String) (payload : Address)
    (build : Address → Peek (Except DecodeFault Payload)) {fault : Address → Prop}
    {selected : Address → ExtendedType → Prop}
    (hbuild : ∀ target, Settles ((build target).result m) (fault target) (selected target)) :
    Settles ((d.decodePointer what payload build).result m) (d.PointerFault m payload fault)
      (fun x => ∃ target, m.pointer? d.target payload = some target ∧ selected target x) := by
  rw [PointerFault, decodePointer, Peek.result_bind, Peek.result_pointer_eq, ← hm.not_hasField,
    ← Memory.pointer?_eq_none]
  cases m.pointer? d.target payload with
  | none =>
    apply settles_error
    exact Or.inl rfl
  | some target =>
    simpa using hbuild target

theorem settles_decodeTarget (what : String) (payload : Address) (p : Address → Payload)
    {x : ExtendedType} (hp : ∀ target, (p target).isError = false ∧ (p target).extendedType = x) :
    Settles ((d.decodePointer what payload fun target => pure (.ok (p target))).result m)
      (m.read payload d.target.width.bytes = none) (· = x) := by
  have hbuild : ∀ target : Address,
      Settles ((pure (.ok (p target)) : Peek (Except DecodeFault Payload)).result m) False
        (· = x) := by
    intro target
    apply settles_ok
    . simp
    . exact (hp target).1
    . exact (hp target).2
  have h := settles_decodePointer hm d what payload _ hbuild
  simp only [PointerFault, and_false, exists_false, or_false] at h
  apply h.of_selected
  rintro y ⟨target, -, hy⟩
  exact hy

theorem settles_decodeString (target : Address) (hint : Option Bool) :
    let fields := StringHeader.fieldsFrom m d.target d.version target
    Settles ((d.decodeString target hint).result m) (StringFault d m target hint) fun x =>
      ∃ n, fields.length? d.version hint = some n ∧
        x = if (StringHeader.known d.version hint fields.tag).getD (40 < n) then .longString
          else .shortString := by
  intro fields
  by_cases hnull : target = .null
  . subst hnull
    apply settles_error
    exact .null rfl
  . rw [result_decodeString m d hint hnull, StringHeader.result_read_fieldsFrom,
      StringHeader.Fields.header?]
    cases hlength : fields.length? d.version hint with
    | none =>
      apply settles_error
      exact .header hlength
    | some n =>
      have hfault := stringFault_iff_of_length? d hnull hlength
      have htext := StringHeader.result_text_eq_none hm
        ⟨(StringHeader.known d.version hint fields.tag).getD (40 < n), n,
          StringHeader.contentAt d.version d.target.width target⟩ d.maxString
      rw [← hfault] at htext
      simp only [Option.map_some]
      cases hcontent : (StringHeader.text _ d.maxString).result m with
      | none =>
        apply settles_error
        exact htext.mp hcontent
      | some content =>
        apply settles_ok
        . rw [← htext, hcontent]
          apply Option.some_ne_none
        . rfl
        . refine ⟨n, rfl, ?_⟩
          split <;> rfl

theorem settles_decodeString_of_hint (target : Address) (long : Bool) :
    Settles ((d.decodeString target (some long)).result m) (StringFault d m target (some long))
      (· = if long then .longString else .shortString) := by
  apply (settles_decodeString hm d target (some long)).of_selected
  rintro x ⟨n, -, hx⟩
  rw [hx, StringHeader.known_some]
  rfl

theorem settles_decodeClosure (target : Address) :
    Settles ((d.decodeClosure target).result m)
      (m.read (Closure.markAt d.target.width target) 1 = none) fun x =>
        ∃ mark, m.byte? d.target (Closure.markAt d.target.width target) = some mark ∧
          x = if mark ≠ 0 then .externalClosure else .luaFunction := by
  rw [decodeClosure, Peek.result_bind, Closure.result_isExternal_eq, ← hm.not_hasField,
    ← Memory.isSome_byte? (t := d.target)]
  cases m.byte? d.target (Closure.markAt d.target.width target) with
  | none =>
    apply settles_error
    simp
  | some mark =>
    by_cases hmark : mark = 0
    . subst hmark
      apply settles_ok (p := .object .luaFunction target)
      . simp
      . rfl
      . exact ⟨0, rfl, rfl⟩
    . have hset : (mark != 0) = true := bne_iff_ne.mpr hmark
      rw [Option.map_some, hset]
      apply settles_ok (p := .object .externalClosure target)
      . simp
      . rfl
      . exact ⟨mark, rfl, (if_pos hmark).symm⟩

theorem settles_decodePayload {tag : UInt8} {kind : Tag}
    (hkind : Tag.meaning? d.version tag = some kind) (payload : Address) :
    Settles ((d.decodePayload tag payload).result m) (PayloadFault d m kind payload)
      (Selects d m kind payload) := by
  rw [decodePayload, Tag.classify_of_meaning? hkind]
  cases kind with
  | nil | boolFalse | boolTrue => exact settles_ok id rfl rfl
  | boolean => exact settles_decodeScalar hm d .i32 _ payload _ fun _ => ⟨rfl, rfl⟩
  | float => exact settles_decodeScalar hm d .f64 _ payload _ fun _ => ⟨rfl, rfl⟩
  | integer => exact settles_decodeScalar hm d .i64 _ payload _ fun _ => ⟨rfl, rfl⟩
  | lightUserData | table | luaClosure | lightCFunction | cClosure | userData | thread =>
    exact settles_decodeTarget hm d _ payload _ fun _ => ⟨rfl, rfl⟩
  | string =>
    -- without a hint the length decides, which it does in 5.1 alone
    have hversion := Tag.version_of_string hkind
    have hstring := fun target => settles_decodeString hm d target none
    apply (settles_decodePointer hm d _ payload _ hstring).of_selected
    rintro x ⟨target, htarget, n, hlength, hx⟩
    refine ⟨target, n, htarget, hlength, ?_⟩
    rw [hx, hversion]
    simp [StringHeader.known]
  | shortString =>
    have hstring := fun target => settles_decodeString_of_hint hm d target false
    apply (settles_decodePointer hm d _ payload _ hstring).of_selected
    rintro x ⟨target, -, hx⟩
    exact hx
  | longString =>
    have hstring := fun target => settles_decodeString_of_hint hm d target true
    apply (settles_decodePointer hm d _ payload _ hstring).of_selected
    rintro x ⟨target, -, hx⟩
    exact hx
  | function =>
    apply (settles_decodePointer hm d _ payload _ (settles_decodeClosure hm d)).of_selected
    rintro x ⟨target, htarget, mark, hmark, hx⟩
    exact ⟨target, mark, htarget, hmark, hx⟩
  | unknown raw => exact absurd hkind Tag.meaning?_ne_unknown

theorem tag?_eq_none {cell : Address} :
    tag? m d cell = none ↔ m.read (cell + 8) (if d.version = .v54 then 1 else 4) = none := by
  unfold tag?
  split
  . rw [Option.map_eq_none_iff, ← Option.not_isSome_iff_eq_none, Memory.isSome_byte?,
      hm.not_hasField]
  . rw [← Option.not_isSome_iff_eq_none, Memory.isSome_int?, hm.not_hasField]

theorem undecodable_iff_of_tag? {cell : Address} {tag : UInt8}
    (htag : tag? m d cell = some (tag.toNat : Int)) :
    Undecodable d m cell ↔
      ∀ kind, Tag.meaning? d.version tag = some kind → PayloadFault d m kind cell := by
  constructor
  . intro h kind hkind
    cases h with
    | tagUnreadable h =>
      rw [← tag?_eq_none hm, htag] at h
      contradiction
    | tagInvalid raw hraw h =>
      have hlt := tag.toNat_lt
      rw [htag] at hraw
      injection hraw with hraw
      omega
    | tagUnknown other hother h =>
      rw [htag, Option.some.injEq, Int.natCast_inj, UInt8.toNat_inj] at hother
      rw [hother, h] at hkind
      contradiction
    | payload other otherKind hother hotherKind h =>
      rw [htag, Option.some.injEq, Int.natCast_inj, UInt8.toNat_inj] at hother
      rw [← hother, hkind] at hotherKind
      injection hotherKind with hotherKind
      rw [hotherKind]
      exact h
  . intro h
    cases hkind : Tag.meaning? d.version tag with
    | none => exact .tagUnknown tag htag hkind
    | some kind => exact .payload tag kind htag hkind (h kind hkind)

theorem settles_decoded (cell : Address) :
    Settles (decoded m d cell) (Undecodable d m cell) fun x => ∃ tag kind,
      tag? m d cell = some (tag.toNat : Int) ∧ Tag.meaning? d.version tag = some kind ∧
      Selects d m kind cell x := by
  unfold decoded
  cases htag : tag? m d cell with
  | none =>
    apply settles_error
    exact .tagUnreadable ((tag?_eq_none hm d).mp htag)
  | some raw =>
    by_cases hrange : 0 ≤ raw ∧ raw < 256
    . obtain ⟨tag, rfl⟩ : ∃ tag : UInt8, raw = (tag.toNat : Int) := by
        refine ⟨UInt8.ofNat raw.toNat, ?_⟩
        rw [UInt8.toNat_ofNat']
        omega
      simp only [hrange, and_self, if_true, Int.toNat_natCast, UInt8.ofNat_toNat]
      have hfault := undecodable_iff_of_tag? hm d htag
      cases hkind : Tag.meaning? d.version tag with
      | none =>
        rw [decodePayload, Tag.classify_eq, hkind]
        apply settles_error
        exact .tagUnknown tag htag hkind
      | some kind =>
        simp only [hkind, Option.some.injEq, forall_eq'] at hfault
        rw [hfault]
        apply (settles_decodePayload hm d hkind cell).of_selected
        intro x hx
        exact ⟨tag, kind, rfl, hkind, hx⟩
    . simp only [hrange, if_false]
      apply settles_error
      exact .tagInvalid raw htag hrange

/--
A value is an error exactly if its tag or one of the reads that the tag calls for is missing. An
error belongs to no cell, and any other value belongs to its cell and has the type that is selected.
-/
theorem isError_readValue_iff {cell : Address} (hcell : 8 ∣ cell.toNat)
    (h : cell.toNat + 16 ≤ UInt64.size) :
    let value := (d.readValue cell).result m
    (value.isError = true ↔ Undecodable d m cell) ∧
    (value.isError = true → value.cell = .null) ∧
    (value.isError = false → value.cell = cell ∧ ∃ tag kind,
      tag? m d cell = some (tag.toNat : Int) ∧ Tag.meaning? d.version tag = some kind ∧
      Selects d m kind cell value.extendedType) ∧
    ∀ target, let text := (d.readString target).result m
      (text.isError = true ↔ StringFault d m target none) ∧ text.cell = .null := by
  intro value
  have hvalue := (settles_decoded hm d cell).withCell cell
  rw [← result_readValue m d hcell (by omega)] at hvalue
  rcases hvalue with ⟨hfault, hnull, hselected⟩
  refine ⟨hfault, hnull, hselected, ?_⟩
  intro target
  rw [readString, Peek.result_bind]
  exact (settles_decodeString hm d target none).outcome

end

theorem readValue_short_string :
    let m : Memory := ⟨.native, fun _ n => some (List.replicate n 4)⟩
    let value := (readValue ⟨.native, .v54, 16⟩ ⟨0x1000⟩).result m
    m.Agrees ∧ value.isError = false ∧ value.cell = ⟨0x1000⟩ ∧
      value.extendedType = .shortString := by
  intro m value
  have hm : m.Agrees := by
    intro a n bs hread
    injection hread with hread
    subst hread
    refine ⟨List.length_replicate, ?_⟩
    intro i hi
    rw [List.getElem_replicate]
    rfl
  have htag : tag? m ⟨.native, .v54, 16⟩ ⟨0x1000⟩ = some (((4 : UInt8).toNat : Nat) : Int) := by
    decide
  have hkind : Tag.meaning? .v54 4 = some .shortString := by decide
  have hpointer : m.pointer? .native ⟨0x1000⟩ = some ⟨0x0404040404040404⟩ := by decide
  have hcell : 8 ∣ (Address.mk 0x1000).toNat := by decide
  rcases isError_readValue_iff hm ⟨.native, .v54, 16⟩ hcell (by decide)
    with ⟨hfault, -, hselected, -⟩
  have hvalue : value.isError = false := by
    rw [Bool.eq_false_iff, ne_eq, hfault, undecodable_iff_of_tag? hm _ htag]
    intro hall
    cases hall _ hkind with
    | inl hread => contradiction
    | inr hstring =>
      rcases hstring with ⟨target, htarget, hstring⟩
      rw [hpointer, Option.some.injEq] at htarget
      subst htarget
      cases hstring with
      | null h => contradiction
      | header h =>
        have hlength : (StringHeader.fieldsFrom m .native .v54 ⟨0x0404040404040404⟩).length? .v54
            (some false) = some 4 := by decide
        rw [hlength] at h
        contradiction
      | content n hlength hwanted h => contradiction
  rcases hselected hvalue with ⟨hstored, tag, kind, hother, hotherKind, hselects⟩
  rw [htag, Option.some.injEq, Int.natCast_inj, UInt8.toNat_inj] at hother
  subst hother
  rw [hkind, Option.some.injEq] at hotherKind
  subst hotherKind
  exact ⟨hm, hvalue, hstored, hselects⟩

end Decoder

end LuaScope
