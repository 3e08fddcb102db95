import LuaScope.Memory.Snapshot
import LuaScope.Proofs.ObjectHeader

/-!
This module contains what a string header tells at the offsets of C: which fields decide whether the
string is long and how long it is, and that no other field has a part in it.
-/

namespace LuaScope

theorem Tag.classify_eq_string {version : Version} (h : version ≠ .v51) (tag : UInt8)
    (long : Bool) :
    classify version tag = (if long then .longString else .shortString) ↔
      tag &&& 0xBF = if long then 0x14 else 0x04 := by
  have hmask : tag &&& ~~~collectableBit = tag &&& 0xBF := rfl
  have hshort : variant 4 0 = 0x04 := by decide
  have hlong : variant 4 1 = 0x14 := by decide
  unfold classify
  rw [hmask]
  generalize tag &&& 0xBF = kept
  cases version with
  | v51 => contradiction
  | v52 | v53 | v54 =>
    cases long with
    | false | true =>
      simp only [classify52, classify53, classify54, classifyCommon, Option.getD_eq_iff,
        ite_eq_iff, hshort, hlong, Option.some.injEq, reduceCtorEq, and_false, and_true, or_false,
        false_or, Bool.false_eq_true, if_true, if_false]
      constructor
      . intro hkept
        simp only [hkept]
      -- the tags that are looked for before are other numbers
      . rintro rfl
        decide

namespace StringHeader

structure Fields where
  tag : Option UInt8
  short : Option Nat
  size : Option Nat
  deriving DecidableEq, Repr

def fieldsFrom (m : Memory) (t : Target) (version : Version) (a : Address) : Fields where
  tag := m.byte? t (tagAt t.width a)
  short := (m.byte? t (shortAt t.width a)).map UInt8.toNat
  size := (m.pointer? t (sizeAt version t.width a)).map Address.toNat

def fieldsAt (m : Memory) (t : Target) (a : Address) : Fields where
  tag := m.byte? t (a + t.width.bytes)
  short := (m.byte? t (a + (t.width.bytes + 3))).map UInt8.toNat
  size := (m.pointer? t (a + match t.width with | .four => 12 | .eight => 16)).map Address.toNat

def splitOfTag (tag : UInt8) : Option Bool :=
  if tag &&& 0xBF = 0x04 then some false
  else if tag &&& 0xBF = 0x14 then some true
  else none

/--
What is known about a string before its length: what the hint says, or else the tag. The tag tells
nothing in 5.1.
-/
def known (version : Version) (hint : Option Bool) (tag : Option UInt8) : Option Bool :=
  match version with
  | .v51 => hint
  | .v52 | .v53 | .v54 => hint <|> tag.bind splitOfTag

theorem known_some (version : Version) (long : Bool) (tag : Option UInt8) :
    known version (some long) tag = some long := by
  cases version <;> rfl

theorem longOfTag_some {version : Version} (h : version ≠ .v51) (tag : UInt8) :
    longOfTag version (some tag) = splitOfTag tag := by
  have hshort := Tag.classify_eq_string h tag false
  have hlong := Tag.classify_eq_string h tag true
  simp only [Bool.false_eq_true, if_true, if_false] at hshort hlong
  unfold splitOfTag
  split
  . next htag =>
    rw [longOfTag, Option.map_some, hshort.mpr htag]
  . next hnotShort =>
    split
    . next htag =>
      rw [longOfTag, Option.map_some, hlong.mpr htag]
    . next hnotLong =>
      unfold longOfTag
      split
      . next hclass =>
        injection hclass with hclass
        exact absurd (hshort.mp hclass) hnotShort
      . next hclass =>
        injection hclass with hclass
        exact absurd (hlong.mp hclass) hnotLong
      . rfl

theorem or_longOfTag {version : Version} (h : version ≠ .v51) (hint : Option Bool)
    (tag : Option UInt8) : (hint <|> longOfTag version tag) = known version hint tag := by
  have htag : longOfTag version tag = tag.bind splitOfTag := by
    cases tag with
    | none => rfl
    | some tag => apply longOfTag_some h
  rw [htag]
  cases version with
  | v51 => contradiction
  | v52 | v53 | v54 => rfl

namespace Fields

/--
The length, from where a version and a hint have it. Only 5.1 and 5.2 can tell before they know
whether the string is long.
-/
def length? (fields : Fields) (version : Version) (hint : Option Bool) : Option Nat :=
  match version with
  | .v51 | .v52 => fields.size
  | .v53 | .v54 =>
    (known version hint fields.tag).bind fun long => if long then fields.size else fields.short

def header? (fields : Fields) (version : Version) (hint : Option Bool) (content : Address) :
    Option StringHeader :=
  (fields.length? version hint).map fun n =>
    ⟨(known version hint fields.tag).getD (40 < n), n, content⟩

end Fields

theorem ofFields_eq (version : Version) (hint : Option Bool) (tag short : Option UInt8)
    (size : Option Address) (content : Address) :
    ofFields version hint tag short size content =
      Fields.header? ⟨tag, short.map UInt8.toNat, size.map Address.toNat⟩ version hint content := by
  cases version with
  | v51 =>
    simp only [ofFields, Fields.header?, Fields.length?, known, Option.map_map]
    rfl
  | v52 =>
    simp only [ofFields, Fields.header?, Fields.length?, or_longOfTag, ne_eq, reduceCtorEq,
      not_false_eq_true, Option.map_map]
    rfl
  | v53 | v54 =>
    simp only [ofFields, Fields.header?, Fields.length?, or_longOfTag, ne_eq, reduceCtorEq,
      not_false_eq_true]
    cases known _ hint tag <;> rfl

theorem result_read_fieldsFrom (m : Memory) (t : Target) (version : Version) (hint : Option Bool)
    (a : Address) :
    (read t version a hint).result m =
      (fieldsFrom m t version a).header? version hint (contentAt version t.width a) := by
  rw [result_read_eq, ofFields_eq]
  rfl

theorem fieldsFrom_eq (m : Memory) {t : Target} (version : Version) {a : Address}
    (ha : 8 ∣ a.toNat) (h : a.toNat + t.width.contentOffset ≤ UInt64.size) :
    fieldsFrom m t version a = fieldsAt m t a := by
  have hsize : t.width.sizeOffset = match t.width with | .four => 12 | .eight => 16 := by
    cases t.width <;> rfl
  unfold fieldsFrom fieldsAt
  rw [tagAt_eq ha h, shortAt_eq ha h, sizeAt_eq ha h, hsize]

namespace Fields

variable {fields others : Fields} {version : Version} {hint : Option Bool} {content : Address}

theorem header?_eq_none :
    fields.header? version hint content = none ↔ fields.length? version hint = none := by
  apply Option.map_eq_none_iff

theorem length?_eq_none :
    fields.length? version hint = none ↔
      if version = .v51 ∨ version = .v52 then fields.size = none
      else
        known version hint fields.tag = none ∨
        known version hint fields.tag = some true ∧ fields.size = none ∨
        known version hint fields.tag = some false ∧ fields.short = none := by
  cases version with
  | v51 | v52 => simp [length?]
  | v53 | v54 =>
    unfold length?
    cases known _ hint fields.tag with
    | none => simp
    | some long => cases long <;> simp

structure Determine (fields : Fields) (version : Version) (hint : Option Bool)
    (header : StringHeader) : Prop where
  hinted : ∀ long, hint = some long → header.isLong = long
  byLength : hint = none → version = .v51 → header.isLong = decide (40 < header.length)
  byTagOrLength : hint = none → version = .v52 →
    header.isLong = (fields.tag.bind splitOfTag).getD (40 < header.length)
  byTag : hint = none → version = .v53 ∨ version = .v54 →
    fields.tag.bind splitOfTag = some header.isLong
  length : some header.length =
    if (version = .v53 ∨ version = .v54) ∧ header.isLong = false then fields.short else fields.size

theorem of_header?_eq_some {header : StringHeader}
    (h : fields.header? version hint content = some header) :
    header.content = content ∧ fields.Determine version hint header := by
  rcases Option.map_eq_some_iff.mp h with ⟨n, hlength, rfl⟩
  refine ⟨rfl, ?_⟩
  cases version with
  | v51 | v52 =>
    have hsize : fields.size = some n := hlength
    cases hint with
    | none | some long => constructor <;> simp [known, hsize]
  | v53 | v54 =>
    rcases Option.bind_eq_some_iff.mp hlength with ⟨long, hlong, hfield⟩
    have hselected : some n = if long = false then fields.short else fields.size := by
      cases long <;> exact hfield.symm
    rw [hlong]
    cases hint with
    | none | some said => constructor <;> simp_all [known]

theorem header?_congr
    (htag : hint = none → version ≠ .v51 → others.tag = fields.tag)
    (hshort : version = .v53 ∨ version = .v54 → known version hint fields.tag = some false →
      others.short = fields.short)
    (hsize : (version = .v53 ∨ version = .v54 → known version hint fields.tag = some true) →
      others.size = fields.size) :
    others.header? version hint content = fields.header? version hint content := by
  have hknown : known version hint others.tag = known version hint fields.tag := by
    cases hint with
    | some long => cases version <;> rfl
    | none =>
      cases version with
      | v51 => rfl
      | v52 | v53 | v54 => rw [htag rfl (by simp)]
  have hlength : others.length? version hint = fields.length? version hint := by
    unfold length?
    rw [hknown]
    cases version with
    | v51 | v52 => exact hsize (by simp)
    | v53 | v54 =>
      cases hlong : known _ hint fields.tag with
      | none => rfl
      | some long =>
        cases long with
        | false => exact hshort (by simp) hlong
        | true => exact hsize fun _ => hlong
  unfold header?
  rw [hlength, hknown]

end Fields

theorem result_read_by_offsets (m : Memory) (t : Target) (version : Version) (hint : Option Bool)
    {a : Address} (ha : 8 ∣ a.toNat)
    (h : a.toNat + (match t.width with | .four => 16 | .eight => 24) ≤ UInt64.size) :
    let fields := fieldsAt m t a
    let long? := known version hint fields.tag
    ((read t version a hint).result m = none ↔
      if version = .v51 ∨ version = .v52 then fields.size = none
      else
        long? = none ∨ long? = some true ∧ fields.size = none ∨
        long? = some false ∧ fields.short = none) ∧
    (∀ header, (read t version a hint).result m = some header →
      header.content = a + (match t.width with | .four => 16 | .eight => 24) ∧
      fields.Determine version hint header) ∧
    ∀ m' : Memory,
      (hint = none → version ≠ .v51 → (fieldsAt m' t a).tag = fields.tag) →
      (version = .v53 ∨ version = .v54 → long? = some false →
        (fieldsAt m' t a).short = fields.short) →
      ((version = .v53 ∨ version = .v54 → long? = some true) →
        (fieldsAt m' t a).size = fields.size) →
      (read t version a hint).result m' = (read t version a hint).result m := by
  have hcontent : t.width.contentOffset = match t.width with | .four => 16 | .eight => 24 := by
    cases t.width <;> rfl
  rw [← hcontent] at h ⊢
  simp only [result_read_fieldsFrom, fieldsFrom_eq _ version ha h, contentAt_eq ha h]
  refine ⟨?_, ?_, ?_⟩
  . rw [Fields.header?_eq_none, Fields.length?_eq_none]
  . intro header hheader
    apply Fields.of_header?_eq_some hheader
  . intro m' htag hshort hsize
    apply Fields.header?_congr htag hshort hsize

theorem read_short_without_size :
    let t : Target := ⟨.four, .big⟩
    let image := #[0, 0, 0, 0, 0x44, 0, 0, 5, 0, 0, 0, 0]
    let m := ((Snapshot.empty t).addRegion ⟨0x1000⟩ image).memory
    fieldsAt m t ⟨0x1000⟩ = ⟨some 0x44, some 5, none⟩ ∧
    (read t .v53 ⟨0x1000⟩ none).result m = some ⟨false, 5, ⟨0x1010⟩⟩ := by
  intro t image m
  have hfields : fieldsAt m t ⟨0x1000⟩ = ⟨some 0x44, some 5, none⟩ := by decide
  have hlong : known .v53 none (some 0x44) = some false := by decide
  rcases result_read_by_offsets m t .v53 none (a := ⟨0x1000⟩) (by decide) (by decide)
    with ⟨hnone, hsome, -⟩
  rw [hfields] at hnone hsome
  refine ⟨hfields, ?_⟩
  cases hresult : (read t .v53 ⟨0x1000⟩ none).result m with
  | none =>
    rw [hresult] at hnone
    simp [hlong] at hnone
  | some header =>
    rcases header with ⟨isLong, length, content⟩
    rcases hsome _ hresult with ⟨hcontent, hdetermine⟩
    have hbyTag := hdetermine.byTag rfl (by simp)
    have hlength := hdetermine.length
    have hsplit : splitOfTag 0x44 = some false := by decide
    have hend : (Address.mk 0x1000 + 16 : Address) = ⟨0x1010⟩ := by decide
    simp_all [t]

end StringHeader

end LuaScope
