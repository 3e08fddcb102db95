import LuaScope.LuaFunction
import LuaScope.Proofs.Fields

/-!
This module contains the proof that a function is read from the offsets that C gives the fields of
its prototype, and that no field is read that it does not need.
-/

namespace LuaScope

namespace Memory

variable {m : Memory} {t : Target} {a : Address}

def gives (m : Memory) (a : Address) (size : Nat) : Bool :=
  (m.read a size).any fun bs => bs.length == size

theorem gives_iff {size : Nat} : m.gives a size ↔ m.HasField a size := by
  unfold gives HasField
  cases m.read a size <;> simp

def untilFailed (m : Memory) : List (Address × Nat) → List (Address × Nat)
  | [] => []
  | (a, size) :: fields => (a, size) :: if m.gives a size then m.untilFailed fields else []

end Memory

namespace Walk

variable (m : Memory) (t : Target) (a : Address) (sizes : List Nat)

theorem outcome_read_byte_behind :
    @outcome UInt8 (read .u8) m ⟨t, a.behind sizes⟩ =
      (m.byte? t (a.fieldBehind sizes 1), ⟨t, a.behind (sizes ++ [1])⟩) := by
  rw [outcome_read_byte, Cursor.result_read_byte_behind, Cursor.skip_behind]
  rfl

theorem outcome_readPointer_behind :
    readPointer.outcome m ⟨t, a.behind sizes⟩ =
      (m.pointer? t (a.fieldBehind sizes t.width.bytes),
        ⟨t, a.behind (sizes ++ [t.width.bytes])⟩) := by
  rw [outcome_readPointer, Cursor.result_readPointer_behind, Cursor.skipPointer_behind]

theorem elim_of_isSome {α : Type} {m : Memory} {a : Address} {size : Nat} {value : Option α}
    (h : value.isSome ↔ m.HasField a size) (rest : List (Address × Nat)) :
    (value.elim [] fun _ => rest) = if m.gives a size then rest else [] := by
  rw [← Memory.gives_iff] at h
  cases value with
  | none =>
    rw [if_neg]
    . rfl
    . rw [← h]
      simp
  | some x =>
    rw [if_pos]
    . rfl
    . rw [← h]
      rfl

theorem elim_byte? (rest : List (Address × Nat)) :
    ((m.byte? t a).elim [] fun _ => rest) = if m.gives a 1 then rest else [] :=
  elim_of_isSome Memory.isSome_byte? rest

theorem elim_int? (rest : List (Address × Nat)) :
    ((m.int? t a).elim [] fun _ => rest) = if m.gives a 4 then rest else [] :=
  elim_of_isSome Memory.isSome_int? rest

theorem elim_pointer? (rest : List (Address × Nat)) :
    ((m.pointer? t a).elim [] fun _ => rest) = if m.gives a t.width.bytes then rest else [] :=
  elim_of_isSome Memory.isSome_pointer? rest

end Walk

namespace Prototype

inductive Field where
  | next
  | tt
  | marked
  | k
  | code
  | p
  | lineinfo
  | abslineinfo
  | locvars
  | upvalues
  | cache
  | source
  | sizeupvalues
  | sizek
  | sizecode
  | sizelineinfo
  | sizep
  | sizelocvars
  | sizeabslineinfo
  | linedefined
  | lastlinedefined
  | gclist
  | nups
  | numparams
  | isVararg
  | maxstacksize
  deriving DecidableEq, Repr

def declared : Version → List Field
  | .v51 => [
    .next, .tt, .marked, .k, .code, .p, .lineinfo, .locvars, .upvalues, .source, .sizeupvalues,
    .sizek, .sizecode, .sizelineinfo, .sizep, .sizelocvars, .linedefined, .lastlinedefined, .gclist,
    .nups, .numparams, .isVararg, .maxstacksize]
  | .v52 => [
    .next, .tt, .marked, .k, .code, .p, .lineinfo, .locvars, .upvalues, .cache, .source,
    .sizeupvalues, .sizek, .sizecode, .sizelineinfo, .sizep, .sizelocvars, .linedefined,
    .lastlinedefined, .gclist, .numparams, .isVararg, .maxstacksize]
  | .v53 => [
    .next, .tt, .marked, .numparams, .isVararg, .maxstacksize, .sizeupvalues, .sizek, .sizecode,
    .sizelineinfo, .sizep, .sizelocvars, .linedefined, .lastlinedefined, .k, .code, .p, .lineinfo,
    .locvars, .upvalues, .cache, .source, .gclist]
  | .v54 => [
    .next, .tt, .marked, .numparams, .isVararg, .maxstacksize, .sizeupvalues, .sizek, .sizecode,
    .sizelineinfo, .sizep, .sizelocvars, .sizeabslineinfo, .linedefined, .lastlinedefined, .k,
    .code, .p, .upvalues, .lineinfo, .abslineinfo, .locvars, .source, .gclist]

def required : List Field :=
  [.p, .source, .sizecode, .sizep, .linedefined, .lastlinedefined, .numparams, .isVararg,
    .maxstacksize]

namespace Field

def size (w : PointerWidth) : Field → Nat
  | .next | .k | .code | .p | .lineinfo | .abslineinfo | .locvars | .upvalues | .cache | .source
  | .gclist => w.bytes
  | .tt | .marked | .nups | .numparams | .isVararg | .maxstacksize => 1
  | .sizeupvalues | .sizek | .sizecode | .sizelineinfo | .sizep | .sizelocvars | .sizeabslineinfo
  | .linedefined | .lastlinedefined => 4

def before (version : Version) (w : PointerWidth) (field : Field) : List Nat :=
  ((declared version).takeWhile (· ≠ field)).map (size w)

/--
Where a field lies in its prototype: behind the fields in front of it, at a multiple of its size.
-/
def offset (version : Version) (w : PointerWidth) (field : Field) : Nat :=
  roundUp (extent (field.before version w)) (field.size w)

def place (version : Version) (w : PointerWidth) (a : Address) (field : Field) : Address :=
  a.fieldBehind (field.before version w) (field.size w)

theorem size_dvd (w : PointerWidth) (field : Field) : field.size w ∣ w.bytes := by
  cases w <;> cases field <;> decide

theorem all_offset_le (version : Version) (w : PointerWidth) :
    required.all fun field => field.offset version w + field.size w ≤ 256 := by
  cases version <;> cases w <;> decide

theorem place_eq {version : Version} {w : PointerWidth} {a : Address} {field : Field}
    (hfield : field ∈ required) (ha : w.bytes ∣ a.toNat) (h : a.toNat + 256 ≤ UInt64.size) :
    field.place version w a = a + field.offset version w := by
  have hall := all_offset_le version w
  rw [List.all_eq_true] at hall
  have hle := hall field hfield
  rw [decide_eq_true_eq] at hle
  have hpos : 0 < field.size w := by cases w <;> cases field <;> decide
  unfold offset at hle
  unfold place offset
  apply Address.fieldBehind_eq (Cursor.bytes_dvd w) ha
  . intro size hsize
    unfold before at hsize
    rw [List.mem_map] at hsize
    rcases hsize with ⟨other, -, rfl⟩
    apply size_dvd
  . apply size_dvd
  . omega

example : offset .v53 .eight .source = 104 := by decide

end Field

structure Holds (m : Memory) (t : Target) (place : Field → Address) (header : Prototype) :
    Prop where
  nested : m.pointer? t (place .p) = some header.nested
  source : m.pointer? t (place .source) = some header.source
  codeSize : m.int? t (place .sizecode) = some header.codeSize
  nestedSize : m.int? t (place .sizep) = some header.nestedSize
  lineDefined : m.int? t (place .linedefined) = some header.lineDefined
  lastLineDefined : m.int? t (place .lastlinedefined) = some header.lastLineDefined
  params : m.byte? t (place .numparams) = some header.params
  isVararg : (m.byte? t (place .isVararg)).map (· != 0) = some header.isVararg
  maxStack : m.byte? t (place .maxstacksize) = some header.maxStack

theorem Holds.congr {m : Memory} {t : Target} {place other : Field → Address} {header : Prototype}
    (h : Holds m t place header) (hplace : ∀ field ∈ required, place field = other field) :
    Holds m t other header := by
  simp only [required, List.forall_mem_cons] at hplace
  rcases hplace with ⟨hp, hsource, hcode, hsize, hline, hlast, hparams, hvararg, hmax, -⟩
  rcases h with ⟨nested, source, codeSize, nestedSize, line, last, params, vararg, maxStack⟩
  constructor
  . rwa [← hp]
  . rwa [← hsource]
  . rwa [← hcode]
  . rwa [← hsize]
  . rwa [← hline]
  . rwa [← hlast]
  . rwa [← hparams]
  . rwa [← hvararg]
  . rwa [← hmax]

theorem exists_holds_iff {m : Memory} {t : Target} {place : Field → Address} :
    (∃ header, Holds m t place header) ↔
      ∀ field ∈ required, m.HasField (place field) (field.size t.width) := by
  simp only [required, List.forall_mem_cons, Field.size, ← Memory.isSome_pointer? (t := t),
    ← Memory.isSome_int? (t := t), ← Memory.isSome_byte? (t := t), Option.isSome_iff_exists]
  constructor
  . rintro ⟨header, h⟩
    rcases Option.map_eq_some_iff.mp h.isVararg with ⟨vararg, hvararg, -⟩
    exact ⟨⟨_, h.nested⟩, ⟨_, h.source⟩, ⟨_, h.codeSize⟩, ⟨_, h.nestedSize⟩, ⟨_, h.lineDefined⟩,
      ⟨_, h.lastLineDefined⟩, ⟨_, h.params⟩, ⟨_, hvararg⟩, ⟨_, h.maxStack⟩, by simp⟩
  . rintro ⟨⟨nested, hnested⟩, ⟨source, hsource⟩, ⟨codeSize, hcode⟩, ⟨nestedSize, hsize⟩,
      ⟨line, hline⟩, ⟨last, hlast⟩, ⟨params, hparams⟩, ⟨vararg, hvararg⟩, ⟨maxStack, hmax⟩, -⟩
    have hset : (m.byte? t (place .isVararg)).map (· != 0) = some (vararg != 0) := by
      rw [hvararg]
      rfl
    refine ⟨⟨params, vararg != 0, maxStack, codeSize, nestedSize, line, last, nested, source⟩, ?_⟩
    constructor <;> assumption

def fields? (m : Memory) (t : Target) (version : Version) (place : Field → Address) :
    Option Prototype :=
  match version with
  | .v51 | .v52 => do
    let nested ← m.pointer? t (place .p)
    let source ← m.pointer? t (place .source)
    let codeSize ← m.int? t (place .sizecode)
    let nestedSize ← m.int? t (place .sizep)
    let lineDefined ← m.int? t (place .linedefined)
    let lastLineDefined ← m.int? t (place .lastlinedefined)
    let params ← m.byte? t (place .numparams)
    let isVararg := (← m.byte? t (place .isVararg)) != 0
    let maxStack ← m.byte? t (place .maxstacksize)
    return {
      params, isVararg, maxStack, codeSize, nestedSize, lineDefined, lastLineDefined, nested,
      source }
  | .v53 | .v54 => do
    let params ← m.byte? t (place .numparams)
    let isVararg := (← m.byte? t (place .isVararg)) != 0
    let maxStack ← m.byte? t (place .maxstacksize)
    let codeSize ← m.int? t (place .sizecode)
    let nestedSize ← m.int? t (place .sizep)
    let lineDefined ← m.int? t (place .linedefined)
    let lastLineDefined ← m.int? t (place .lastlinedefined)
    let nested ← m.pointer? t (place .p)
    let source ← m.pointer? t (place .source)
    return {
      params, isVararg, maxStack, codeSize, nestedSize, lineDefined, lastLineDefined, nested,
      source }

theorem fields?_eq_some_iff {m : Memory} {t : Target} {version : Version}
    {place : Field → Address} {header : Prototype} :
    fields? m t version place = some header ↔ Holds m t place header := by
  constructor
  . intro h
    cases version with
    | v51 | v52 =>
      rcases Option.bind_eq_some_iff.mp h with ⟨nested, hnested, h⟩
      rcases Option.bind_eq_some_iff.mp h with ⟨source, hsource, h⟩
      rcases Option.bind_eq_some_iff.mp h with ⟨codeSize, hcode, h⟩
      rcases Option.bind_eq_some_iff.mp h with ⟨nestedSize, hsize, h⟩
      rcases Option.bind_eq_some_iff.mp h with ⟨line, hline, h⟩
      rcases Option.bind_eq_some_iff.mp h with ⟨last, hlast, h⟩
      rcases Option.bind_eq_some_iff.mp h with ⟨params, hparams, h⟩
      rcases Option.bind_eq_some_iff.mp h with ⟨vararg, hvararg, h⟩
      rcases Option.bind_eq_some_iff.mp h with ⟨maxStack, hmax, h⟩
      injection h with h
      subst h
      have hset : (m.byte? t (place .isVararg)).map (· != 0) = some (vararg != 0) := by
        rw [hvararg]
        rfl
      constructor <;> assumption
    | v53 | v54 =>
      rcases Option.bind_eq_some_iff.mp h with ⟨params, hparams, h⟩
      rcases Option.bind_eq_some_iff.mp h with ⟨vararg, hvararg, h⟩
      rcases Option.bind_eq_some_iff.mp h with ⟨maxStack, hmax, h⟩
      rcases Option.bind_eq_some_iff.mp h with ⟨codeSize, hcode, h⟩
      rcases Option.bind_eq_some_iff.mp h with ⟨nestedSize, hsize, h⟩
      rcases Option.bind_eq_some_iff.mp h with ⟨line, hline, h⟩
      rcases Option.bind_eq_some_iff.mp h with ⟨last, hlast, h⟩
      rcases Option.bind_eq_some_iff.mp h with ⟨nested, hnested, h⟩
      rcases Option.bind_eq_some_iff.mp h with ⟨source, hsource, h⟩
      injection h with h
      subst h
      have hset : (m.byte? t (place .isVararg)).map (· != 0) = some (vararg != 0) := by
        rw [hvararg]
        rfl
      constructor <;> assumption
  . intro h
    rcases Option.map_eq_some_iff.mp h.isVararg with ⟨vararg, hvararg, hheader⟩
    cases version with
    | v51 | v52 | v53 | v54 =>
      simp only [fields?, Option.bind_eq_bind, Option.pure_def, h.nested, h.source, h.codeSize,
        h.nestedSize, h.lineDefined, h.lastLineDefined, h.params, hvararg, h.maxStack, hheader,
        Option.bind_some]

theorem outcome_readInt_behind (m : Memory) (t : Target) (a : Address) (sizes : List Nat) :
    readInt.outcome m ⟨t, a.behind sizes⟩ =
      (m.int? t (a.fieldBehind sizes 4), ⟨t, a.behind (sizes ++ [4])⟩) := by
  have hread := Walk.outcome_read .i32 m ⟨t, a.behind sizes⟩
  rw [Cursor.result_read_behind, Cursor.skip_behind] at hread
  rw [readInt, Walk.outcome_bind, hread, Memory.int?]
  simp only [Primitive.size]
  cases m.scalar? t.order .i32 _ <;> rfl

theorem requests_readInt (m : Memory) (c : Cursor) :
    readInt.requests m c = [(c.field 4, 4)] := by
  rw [readInt, Walk.requests_bind, Walk.requests_read]
  cases (Walk.outcome _ _ _).1 <;> rfl

theorem walk_eq (m : Memory) (t : Target) (version : Version) (a : Address) :
    ((walk version).outcome m ⟨t, a⟩).1 = fields? m t version (Field.place version t.width a) ∧
    (walk version).requests m ⟨t, a⟩ =
      m.untilFailed (((declared version).filter (· ∈ required)).map fun field =>
        (field.place version t.width a, field.size t.width)) := by
  have hstart : Cursor.mk t a = ⟨t, a.behind []⟩ := rfl
  rw [hstart]
  unfold walk
  cases version with
  | v51 | v52 | v53 | v54 =>
    -- every step leads from behind some fields to behind one more, and what is left are the places
    simp only [pointersFirst, bytesFirst, Walk.fst_outcome_bind, Walk.requests_bind,
      Walk.outcome_skip, Walk.requests_skip, Walk.outcome_skipPointer, Walk.requests_skipPointer,
      Walk.outcome_skipPointers, Walk.requests_skipPointers, Walk.outcome_readPointer_behind,
      Walk.requests_readPointer, Walk.outcome_read_byte_behind, Walk.requests_read_byte,
      outcome_readInt_behind, requests_readInt, Walk.outcome_pure, Walk.requests_pure,
      Cursor.skip_behind, Cursor.skipPointer_behind, Cursor.repeat_skipPointer_behind,
      Cursor.field_behind, Walk.elim_byte?, Walk.elim_int?, Walk.elim_pointer?, Option.bind_some,
      Option.elim_some, Primitive.size, List.replicate, List.nil_append, List.cons_append,
      reduceCtorEq, if_false, if_true]
    constructor
    . rfl
    . rfl

theorem result_read_eq_some_iff {m : Memory} {t : Target} {version : Version} {a : Address}
    {header : Prototype} :
    (read t version a).result m = some header ↔
      Holds m t (Field.place version t.width a) header := by
  rw [read, Walk.result_start, (walk_eq m t version a).1]
  apply fields?_eq_some_iff

theorem reads_read (m : Memory) (t : Target) (version : Version) (a : Address) :
    (read t version a).reads m =
      m.untilFailed (((declared version).filter (· ∈ required)).map fun field =>
        (field.place version t.width a, field.size t.width)) := by
  rw [read, Walk.reads_start, (walk_eq m t version a).2]

end Prototype

namespace Closure

/--
The fields of a closure in front of its prototype: the common header, in 5.1 the mark of closures of
the host, the number of upvalues, a list of the collector, and in 5.1 the environment.
-/
def beforePrototype (version : Version) (w : PointerWidth) : List Nat :=
  match version with
  | .v51 => [w.bytes, 1, 1, 1, 1, w.bytes, w.bytes]
  | .v52 | .v53 | .v54 => [w.bytes, 1, 1, 1, w.bytes]

def prototypeOffset (version : Version) (w : PointerWidth) : Nat :=
  roundUp (extent (beforePrototype version w)) w.bytes

theorem result_prototype (m : Memory) (t : Target) (version : Version) (c : Address) :
    (prototype t version c).result m =
      (m.pointer? t (c.fieldBehind (beforePrototype version t.width) t.width.bytes)).bind
        fun proto => if proto.isNull then none else some proto := by
  have hstart : Cursor.mk t c = ⟨t, c.behind []⟩ := rfl
  rw [prototype, Walk.result_start, hstart]
  unfold prototype.walk
  cases version with
  | v51 | v52 | v53 | v54 =>
    simp only [Walk.fst_outcome_bind, Walk.outcome_commonHeader, Walk.outcome_skip,
      Walk.outcome_skipPointer, Walk.outcome_readPointer_behind, Walk.outcome_require,
      Cursor.skip_behind, Cursor.skipPointer_behind, Option.bind_some, Primitive.size,
      List.nil_append, List.cons_append, reduceCtorEq, if_false, if_true]
    rfl

theorem prototype_ne_null {m : Memory} {t : Target} {version : Version} {c proto : Address}
    (h : (prototype t version c).result m = some proto) : proto ≠ .null := by
  rw [result_prototype, Option.bind_eq_some_iff] at h
  rcases h with ⟨stored, -, h⟩
  split at h
  . contradiction
  . next hstored =>
    injection h with h
    subst h
    intro hnull
    apply hstored
    rw [hnull]
    rfl

theorem prototypeSlot_eq {version : Version} {w : PointerWidth} {c : Address}
    (hc : w.bytes ∣ c.toNat) (h : c.toNat + 256 ≤ UInt64.size) :
    c.fieldBehind (beforePrototype version w) w.bytes = c + prototypeOffset version w := by
  have hle : prototypeOffset version w + w.bytes ≤ 256 := by
    cases version <;> cases w <;> decide
  have hpos : 0 < w.bytes := by cases w <;> decide
  unfold prototypeOffset at hle ⊢
  apply Address.fieldBehind_eq (Cursor.bytes_dvd w) hc
  . cases version <;> cases w <;> decide
  . apply Nat.dvd_refl
  . omega

end Closure

namespace LuaFunction

variable {m : Memory} {t : Target} {version : Version} {a c : Address}

theorem result_read (hnull : a ≠ .null) :
    (read t version a).result m =
      match (Prototype.read t version a).result m with
      | none => .error (.unreadable "function prototype" a)
      | some header => .ok {
        version, header
        address := a
        source := .unread
        sourceAddress := .null
        startLine := 0
        endLine := 0
        locals := #[] } := by
  unfold read
  simp only [Address.isNull_eq_false hnull, Bool.false_eq_true, if_false, Peek.result_bind]
  cases (Prototype.read t version a).result m <;> rfl

theorem reads_read (hnull : a ≠ .null) :
    (read t version a).reads m = (Prototype.read t version a).reads m := by
  unfold read
  simp only [Address.isNull_eq_false hnull, Bool.false_eq_true, if_false, Peek.reads_bind]
  cases (Prototype.read t version a).result m <;> apply List.append_nil

theorem exists_result_read_eq_ok (hnull : a ≠ .null) :
    (∃ f, (read t version a).result m = .ok f) ↔
      ∃ header, (Prototype.read t version a).result m = some header := by
  rw [result_read hnull]
  cases (Prototype.read t version a).result m <;> simp

theorem of_result_read_eq_ok (hnull : a ≠ .null) {f : LuaFunction}
    (h : (read t version a).result m = .ok f) :
    f.version = version ∧ f.address = a ∧
      (Prototype.read t version a).result m = some f.header := by
  rw [result_read hnull] at h
  cases hread : (Prototype.read t version a).result m with
  | none => simp [hread] at h
  | some header =>
    simp only [hread, Except.ok.injEq] at h
    subst h
    exact ⟨rfl, rfl, rfl⟩

theorem of_result_read_eq_error (hnull : a ≠ .null) {failure : Failure}
    (h : (read t version a).result m = .error failure) :
    failure = .unreadable "function prototype" a := by
  rw [result_read hnull] at h
  cases hread : (Prototype.read t version a).result m with
  | none =>
    simp only [hread, Except.error.injEq] at h
    exact h.symm
  | some header => simp [hread] at h

theorem result_ofClosure_of_some {proto : Address}
    (h : (Closure.prototype t version c).result m = some proto) :
    (ofClosure t version c).result m = (read t version proto).result m := by
  rw [ofClosure, Peek.result_bind, h]

theorem result_ofClosure_of_none (h : (Closure.prototype t version c).result m = none) :
    (ofClosure t version c).result m = .error (.unreadable "Lua closure" c) := by
  rw [ofClosure, Peek.result_bind, h]
  rfl

theorem result_read_as_declared (m : Memory) (t : Target) (version : Version) {a c : Address}
    (hnull : a ≠ .null)
    (ha : t.width.bytes ∣ a.toNat) (hatop : a.toNat + 256 ≤ UInt64.size)
    (hc : t.width.bytes ∣ c.toNat) (hctop : c.toNat + 256 ≤ UInt64.size) :
    let place : Prototype.Field → Address := fun field => a + field.offset version t.width
    let slot := c + Closure.prototypeOffset version t.width
    ((∃ f, (read t version a).result m = .ok f) ↔
      ∀ field ∈ Prototype.required, m.HasField (place field) (field.size t.width)) ∧
    (∀ f, (read t version a).result m = .ok f →
      f.version = version ∧ f.address = a ∧ Prototype.Holds m t place f.header) ∧
    (∀ failure, (read t version a).result m = .error failure →
      failure = .unreadable "function prototype" a) ∧
    (read t version a).reads m =
      m.untilFailed (((Prototype.declared version).filter (· ∈ Prototype.required)).map
        fun field => (place field, field.size t.width)) ∧
    (∀ proto, proto ≠ .null → m.pointer? t slot = some proto →
      (ofClosure t version c).result m = (read t version proto).result m) ∧
    (m.pointer? t slot = none ∨ m.pointer? t slot = some .null →
      (ofClosure t version c).result m = .error (.unreadable "Lua closure" c)) ∧
    ∀ message, (ofClosure t version c).result m ≠ .error (.invalidArgument message) := by
  intro place slot
  have hplace : ∀ field ∈ Prototype.required,
      field.place version t.width a = place field :=
    fun field hfield => Prototype.Field.place_eq hfield ha hatop
  have hheader : ∀ header, (Prototype.read t version a).result m = some header ↔
      Prototype.Holds m t place header := by
    intro header
    rw [Prototype.result_read_eq_some_iff]
    constructor
    . intro h
      apply h.congr hplace
    . intro h
      apply h.congr
      intro field hfield
      rw [hplace field hfield]
  have hprototype : (Closure.prototype t version c).result m =
      (m.pointer? t slot).bind fun proto => if proto.isNull then none else some proto := by
    rw [Closure.result_prototype, Closure.prototypeSlot_eq hc hctop]
  refine ⟨?_, ?_, ?_, ?_, ?_, ?_, ?_⟩
  . rw [exists_result_read_eq_ok hnull, ← Prototype.exists_holds_iff]
    simp only [hheader]
  . intro f hf
    rcases of_result_read_eq_ok hnull hf with ⟨hversion, haddress, hread⟩
    exact ⟨hversion, haddress, (hheader _).mp hread⟩
  . intro failure hfailure
    apply of_result_read_eq_error hnull hfailure
  . rw [reads_read hnull, Prototype.reads_read]
    apply congrArg m.untilFailed
    apply List.map_congr_left
    intro field hfield
    have hrequired : field ∈ Prototype.required := by
      rw [List.mem_filter, decide_eq_true_eq] at hfield
      exact hfield.2
    rw [hplace field hrequired]
  . intro proto hproto hslot
    apply result_ofClosure_of_some
    rw [hprototype, hslot, Option.bind_some, Address.isNull_eq_false hproto]
    rfl
  . intro hslot
    apply result_ofClosure_of_none
    rw [hprototype]
    cases hslot with
    | inl hnone =>
      rw [hnone]
      rfl
    | inr hnull =>
      rw [hnull]
      rfl
  . intro message
    cases hread : (Closure.prototype t version c).result m with
    | none =>
      rw [result_ofClosure_of_none hread]
      simp
    | some proto =>
      rw [result_ofClosure_of_some hread]
      intro hinvalid
      have hunreadable := of_result_read_eq_error (Closure.prototype_ne_null hread) hinvalid
      cases hunreadable

/--
In a memory where every byte is the lowest one of its own address, a field shows where it was read.
-/
theorem read_where_bytes_are_addresses :
    let t : Target := ⟨.four, .little⟩
    let m : Memory := ⟨t, fun a n => some ((List.range n).map fun i => (a + i).value.toUInt8)⟩
    ∃ f, (ofClosure t .v53 ⟨0x2000⟩).result m = .ok f ∧ f.address = ⟨0x0F0E0D0C⟩ ∧
      f.header.lineDefined = 0x33323130 := by
  intro t m
  have hfields : ∀ field ∈ Prototype.required,
      m.HasField (Address.mk 0x0F0E0D0C + field.offset .v53 t.width) (field.size t.width) := by
    intro field hfield
    exact ⟨_, rfl, by simp⟩
  have hslot : m.pointer? t (Address.mk 0x2000 + Closure.prototypeOffset .v53 t.width) =
      some ⟨0x0F0E0D0C⟩ := by decide
  have hline : m.int? t (Address.mk 0x0F0E0D0C + Prototype.Field.offset .v53 t.width
      .linedefined) = some 0x33323130 := by decide
  rcases result_read_as_declared m t .v53 (a := ⟨0x0F0E0D0C⟩) (c := ⟨0x2000⟩) (by decide)
    (by decide) (by decide) (by decide) (by decide) with ⟨hok, hread, -, -, hclosure, -, -⟩
  rcases hok.mpr hfields with ⟨f, hf⟩
  rcases hread f hf with ⟨-, haddress, hheld⟩
  have hstored := hheld.lineDefined
  rw [hline] at hstored
  injection hstored with hstored
  refine ⟨f, ?_, haddress, hstored.symm⟩
  rw [hclosure _ (by decide) hslot]
  exact hf

end LuaFunction

end LuaScope
