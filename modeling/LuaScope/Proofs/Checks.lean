import LuaScope.Proofs.Spot
import LuaScope.Proofs.StringRequests
import LuaScope.Proofs.SymbolHistory
import LuaScope.Proofs.Walk

/-!
This module contains the proof that no check fails over an image, whatever bytes it holds. Checks of
a computation are passed if they are passed by its parts, so there is one lemma for each definition,
and only the loop over the pages of a string has to count on the answers that an image gives.
-/

namespace LuaScope

namespace Snapshot

/--
Reads as a debug build does: the region of the first byte is taken out of the regions by its
position, and the range out of its bytes.
-/
def guardedRead (s : Snapshot) (a : Address) (length : Nat) :
    Except Check (Option (List UInt8)) := do
  if length = 0 then return some []
  match Frame.spot s.frames a with
  | none => return none
  | some p =>
    match s.regions.reverse[p.region]? with
    | none => throw (.element p.region s.regions.length)
    | some r =>
      if p.offset + length ≤ r.bytes.size then
        Check.pass (.slice p.offset (p.offset + length) r.bytes.size)
        return some (r.window p.offset length)
      else return none

theorem locate_of_spot {s : Snapshot} {a : Address} {p : Spot} (h : Frame.spot s.frames a = some p) :
    ∃ r, s.locate a = some (r, p.offset) ∧ s.regions.reverse[p.region]? = some r := by
  rcases s with ⟨t, rs⟩
  unfold frames at h
  dsimp only at h ⊢
  induction rs with
  | nil => contradiction
  | cons r rs ih =>
    rw [List.map_cons, Frame.spot] at h
    unfold locate
    rw [List.findSome?_cons, Region.offset?_eq]
    split at h
    . next i hindex =>
      injection h with h
      subst h
      refine ⟨r, by rw [hindex]; rfl, ?_⟩
      simp
    . next hindex =>
      rcases ih h with ⟨q, hlocate, hq⟩
      have hlt := Frame.region_lt_of_spot h
      rw [List.length_map] at hlt
      refine ⟨q, by rw [hindex]; exact hlocate, ?_⟩
      rw [List.reverse_cons, List.getElem?_append_left (by simpa using hlt), hq]

theorem guardedRead_eq (s : Snapshot) (a : Address) (n : Nat) :
    s.guardedRead a n = .ok (s.memory.read a n) := by
  show s.guardedRead a n = .ok (s.read a n)
  unfold guardedRead read
  split
  . rfl
  . cases hspot : Frame.spot s.frames a with
    | none =>
      have hlocate : s.locate a = none := locate_eq_none hspot
      rw [hlocate]
      rfl
    | some p =>
      rcases locate_of_spot hspot with ⟨r, hlocate, hregion⟩
      simp only [hlocate, hregion]
      split
      . next hfits =>
        have hslice : Check.pass (.slice p.offset (p.offset + n) r.bytes.size) = .ok () :=
          if_pos ⟨by omega, hfits⟩
        rw [hslice]
        rfl
      . rfl

end Snapshot

namespace Peek

variable {α β : Type} {m : Memory}

def Passes (m : Memory) : Peek α → Prop
  | .done _ => True
  | .read address length next => (next (m.read address length)).Passes m
  | .note _ rest => rest.Passes m
  | .check c rest => c.Holds ∧ rest.Passes m

@[simp]
theorem passes_done (a : α) : (done a).Passes m := trivial

@[simp]
theorem passes_pure (a : α) : (pure a : Peek α).Passes m := trivial

@[simp]
theorem passes_report (notice : Notice) : (report notice).Passes m := trivial

theorem passes_bind {p : Peek α} {f : α → Peek β} :
    (p >>= f).Passes m ↔ p.Passes m ∧ (f (p.result m)).Passes m := by
  induction p with
  | done a => simp [result]
  | read address length next ih => exact ih (m.read address length)
  | note notice rest ih => exact ih
  | check c rest ih =>
    show c.Holds ∧ (rest >>= f).Passes m ↔ (c.Holds ∧ rest.Passes m) ∧ _
    rw [ih, and_assoc]
    rfl

theorem Passes.bind {p : Peek α} {f : α → Peek β} (hp : p.Passes m) (hf : ∀ a, (f a).Passes m) :
    (p >>= f).Passes m :=
  passes_bind.mpr ⟨hp, hf (p.result m)⟩

theorem Passes.guarded_eq {p : Peek α} (h : p.Passes m)
    {readAt : Address → Nat → Except Check (Option (List UInt8))}
    (hread : ∀ a n, readAt a n = .ok (m.read a n)) : p.guarded readAt = .ok (p.result m) := by
  induction p with
  | done a => rfl
  | read address length next ih =>
    unfold guarded
    rw [hread]
    apply ih _ h
  | note notice rest ih => apply ih h
  | check c rest ih =>
    unfold guarded Check.pass
    rw [if_pos h.1]
    apply ih h.2

theorem Always.passes {allowed : Nat → Option (List UInt8) → Prop} {p : Peek α}
    {post : List (Address × Nat) → α → Prop} (h : p.Always allowed post)
    (hm : ∀ a n, allowed n (m.read a n)) : p.Passes m := by
  induction p generalizing post with
  | done a => trivial
  | read address length next ih => exact ih _ (h _ (hm address length))
  | note notice rest ih => exact ih h
  | check c rest ih => exact ⟨h.1, ih h.2⟩

theorem passes_scalar (order : ByteOrder) (p : Primitive) (a : Address) :
    (scalar order p a).Passes m := by
  simp only [scalar, Passes]
  split
  . trivial
  . split
    . next hlen => exact ⟨⟨Nat.zero_le _, Nat.le_of_eq hlen.symm⟩, trivial⟩
    . trivial

theorem passes_pointer (t : Target) (a : Address) : (pointer t a).Passes m := by
  unfold pointer
  cases t.width with
  | four | eight =>
    apply Passes.bind
    . apply passes_scalar
    . intro value
      trivial

end Peek

namespace Cursor

theorem passes_verify {step : Step} {t : Target} {m : Memory}
    (h : Address.isAlignment (step.alignment t)) : (verify t step).Passes m :=
  ⟨h, trivial⟩

end Cursor

namespace Walk

variable {α β : Type}

def Passes (w : Walk α) : Prop :=
  ∀ m c, (w.run.run c).Passes m

theorem passes_pure (x : α) : (pure x : Walk α).Passes := fun _ _ => trivial

theorem passes_get : (get : Walk Cursor).Passes := fun _ _ => trivial

theorem passes_set (d : Cursor) : (set d : Walk PUnit).Passes := fun _ _ => trivial

theorem passes_modify (f : Cursor → Cursor) : (modify f : Walk PUnit).Passes := fun _ _ => trivial

theorem passes_position : position.Passes := fun _ _ => trivial

theorem passes_require (value : Option α) : (require value).Passes := fun _ _ => trivial

theorem Passes.bind {w : Walk α} {f : α → Walk β} (hw : w.Passes) (hf : ∀ x, (f x).Passes) :
    (w >>= f).Passes := by
  intro m c
  rw [run_bind]
  apply Peek.Passes.bind (hw m c)
  intro d
  rcases d with ⟨value, d⟩
  cases value with
  | none => trivial
  | some x => apply hf

theorem passes_lift {p : Peek α} (h : ∀ m, p.Passes m) : (liftM p : Walk α).Passes := by
  intro m c
  rw [run_lift]
  apply Peek.Passes.bind
  . apply Peek.Passes.bind (h m)
    intro x
    trivial
  . intro d
    trivial

theorem passes_verify {step : Cursor.Step} (h : ∀ t, Address.isAlignment (step.alignment t)) :
    (verify step).Passes := by
  refine .bind passes_get fun c => ?_
  apply passes_lift
  intro m
  apply Cursor.passes_verify (h c.target)

theorem passes_verify_size (p : Primitive) :
    (verify (.skip p)).Passes ∧ (verify (.read p)).Passes := by
  constructor
  . apply passes_verify
    intro t
    apply Cursor.isAlignment_size
  . apply passes_verify
    intro t
    apply Cursor.isAlignment_size

theorem passes_verify_width :
    (verify .skipPointer).Passes ∧ (verify .readPointer).Passes := by
  constructor
  . apply passes_verify
    intro t
    apply Cursor.isAlignment_width
  . apply passes_verify
    intro t
    apply Cursor.isAlignment_width

theorem passes_skip (p : Primitive) : (skip p).Passes :=
  .bind (passes_verify_size p).1 fun _ => passes_modify _

theorem passes_skipPointer : skipPointer.Passes :=
  .bind passes_verify_width.1 fun _ => passes_modify _

theorem passes_skipPointers (count : Nat) : (skipPointers count).Passes :=
  .bind passes_verify_width.1 fun _ => passes_modify _

theorem passes_align {n : UInt64} (h : Address.isAlignment n) : (align n).Passes :=
  .bind (passes_verify fun _ => h) fun _ => passes_modify _

theorem passes_attempt (p : Primitive) : (attempt p).Passes := by
  refine .bind (passes_verify_size p).2 fun _ => ?_
  refine .bind passes_get fun c => ?_
  refine .bind (passes_lift fun m => Peek.passes_scalar _ p _) fun value => ?_
  refine .bind (passes_set _) fun _ => ?_
  apply passes_pure

theorem passes_read (p : Primitive) : (read p).Passes :=
  .bind (passes_attempt p) passes_require

theorem passes_readPointer : readPointer.Passes := by
  refine .bind passes_verify_width.2 fun _ => ?_
  refine .bind passes_get fun c => ?_
  refine .bind (passes_lift fun m => Peek.passes_pointer _ _) fun value => ?_
  refine .bind (passes_set _) fun _ => ?_
  apply passes_require

theorem passes_readSize : readSize.Passes :=
  .bind passes_readPointer fun _ => passes_pure _

theorem passes_commonHeader : commonHeader.Passes := by
  refine .bind passes_skipPointer fun _ => ?_
  refine .bind (passes_attempt .u8) fun tag => ?_
  refine .bind (passes_skip .u8) fun _ => ?_
  apply passes_pure

theorem Passes.start {w : Walk α} (h : w.Passes) (m : Memory) (t : Target) (a : Address) :
    (w.start t a).Passes m :=
  .bind (h m ⟨t, a⟩) fun _ => trivial

end Walk

namespace StringHeader

open Walk

theorem passes_shortLength (short : Option UInt8) : (walk.shortLength short).Passes := by
  refine .bind passes_skipPointer fun _ => ?_
  refine .bind (passes_require short) fun n => ?_
  apply passes_pure

theorem passes_walk (version : Version) (hint : Option Bool) : (walk version hint).Passes := by
  have halign : (align maxAlignment).Passes := passes_align (by decide)
  refine .bind passes_commonHeader fun tag => ?_
  cases version with
  | v51 | v52 =>
    refine .bind (passes_skip .u8) fun _ => ?_
    refine .bind (passes_skip .u32) fun _ => ?_
    refine .bind passes_readSize fun length => ?_
    refine .bind halign fun _ => ?_
    refine .bind passes_position fun content => ?_
    apply passes_pure
  | v53 | v54 =>
    refine .bind (passes_skip .u8) fun _ => ?_
    refine .bind (passes_attempt .u8) fun short => ?_
    refine .bind (passes_skip .u32) fun _ => ?_
    refine .bind (passes_require _) fun long => ?_
    dsimp only
    -- whatever the length is read from, the same moves follow
    split
    on_goal 1 => refine .bind passes_readSize fun length => ?_
    on_goal 2 => refine .bind (passes_shortLength short) fun length => ?_
    all_goals
      split
      on_goal 1 => refine .bind halign fun _ => ?_
      all_goals
        refine .bind passes_position fun content => ?_
        apply passes_pure

theorem passes_read (m : Memory) (t : Target) (version : Version) (a : Address)
    (hint : Option Bool) : (read t version a hint).Passes m :=
  (passes_walk version hint).start m t a

end StringHeader

namespace Closure

open Walk

theorem passes_isExternal (m : Memory) (t : Target) (a : Address) : (isExternal t a).Passes m := by
  apply Walk.Passes.start
  refine .bind passes_commonHeader fun _ => ?_
  refine .bind (passes_read .u8) fun mark => ?_
  apply passes_pure

theorem passes_prototype (m : Memory) (t : Target) (version : Version) (a : Address) :
    (prototype t version a).Passes m := by
  apply Walk.Passes.start
  refine .bind passes_commonHeader fun _ => ?_
  dsimp only
  split
  on_goal 1 => refine .bind (passes_skip .u8) fun _ => ?_
  all_goals
    refine .bind (passes_skip .u8) fun _ => ?_
    refine .bind passes_skipPointer fun _ => ?_
  on_goal 1 => refine .bind passes_skipPointer fun _ => ?_
  all_goals
    refine .bind passes_readPointer fun proto => ?_
    apply passes_require

end Closure

namespace Prototype

open Walk

theorem passes_readInt : readInt.Passes :=
  .bind (passes_read .i32) fun _ => passes_pure _

theorem passes_pointersFirst (version : Version) : (pointersFirst version).Passes := by
  refine .bind (passes_skipPointers 2) fun _ => ?_
  refine .bind passes_readPointer fun nested => ?_
  refine .bind (passes_skipPointers 3) fun _ => ?_
  dsimp only
  split
  on_goal 1 => refine .bind passes_skipPointer fun _ => ?_
  all_goals
    refine .bind passes_readPointer fun source => ?_
    refine .bind (passes_skip .i32) fun _ => ?_
    refine .bind (passes_skip .i32) fun _ => ?_
    refine .bind passes_readInt fun codeSize => ?_
    refine .bind (passes_skip .i32) fun _ => ?_
    refine .bind passes_readInt fun nestedSize => ?_
    refine .bind (passes_skip .i32) fun _ => ?_
    refine .bind passes_readInt fun lineDefined => ?_
    refine .bind passes_readInt fun lastLineDefined => ?_
    refine .bind passes_skipPointer fun _ => ?_
    split
    on_goal 1 => refine .bind (passes_skip .u8) fun _ => ?_
    all_goals
      refine .bind (passes_read .u8) fun params => ?_
      refine .bind (passes_read .u8) fun isVararg => ?_
      refine .bind (passes_read .u8) fun maxStack => ?_
      apply passes_pure

theorem passes_bytesFirst (version : Version) : (bytesFirst version).Passes := by
  refine .bind (passes_read .u8) fun params => ?_
  refine .bind (passes_read .u8) fun isVararg => ?_
  refine .bind (passes_read .u8) fun maxStack => ?_
  refine .bind (passes_skip .i32) fun _ => ?_
  refine .bind (passes_skip .i32) fun _ => ?_
  refine .bind passes_readInt fun codeSize => ?_
  refine .bind (passes_skip .i32) fun _ => ?_
  refine .bind passes_readInt fun nestedSize => ?_
  refine .bind (passes_skip .i32) fun _ => ?_
  dsimp only
  split
  on_goal 1 => refine .bind (passes_skip .i32) fun _ => ?_
  all_goals
    refine .bind passes_readInt fun lineDefined => ?_
    refine .bind passes_readInt fun lastLineDefined => ?_
    refine .bind (passes_skipPointers 2) fun _ => ?_
    refine .bind passes_readPointer fun nested => ?_
    refine .bind (passes_skipPointers 4) fun _ => ?_
    refine .bind passes_readPointer fun source => ?_
    apply passes_pure

theorem passes_walk (version : Version) : (walk version).Passes := by
  refine .bind passes_skipPointer fun _ => ?_
  refine .bind (passes_skip .u8) fun _ => ?_
  refine .bind (passes_skip .u8) fun _ => ?_
  cases version with
  | v51 | v52 => apply passes_pointersFirst
  | v53 | v54 => apply passes_bytesFirst

theorem passes_read (m : Memory) (t : Target) (version : Version) (a : Address) :
    (read t version a).Passes m :=
  (passes_walk version).start m t a

end Prototype

namespace StringHeader

theorem passes_text {m : Memory} (hm : m.Exact) (h : StringHeader) (limit : Nat) :
    (h.text limit).Passes m := by
  apply (h.always_text limit).passes
  intro a n bs hread
  have hlen := hm a n bs hread
  omega

end StringHeader

namespace Decoder

variable {m : Memory} (d : Decoder)

theorem passes_decodeString (hm : m.Exact) (a : Address) (hint : Option Bool) :
    (d.decodeString a hint).Passes m := by
  unfold decodeString
  split
  . trivial
  . refine .bind (StringHeader.passes_read m _ _ _ _) fun header => ?_
    split
    . trivial
    . refine .bind (StringHeader.passes_text hm _ _) fun text => ?_
      split
      . trivial
      . next text truncated => cases truncated <;> trivial

theorem passes_decodeClosure (a : Address) : (d.decodeClosure a).Passes m := by
  refine .bind (Closure.passes_isExternal m _ _) fun external => ?_
  split <;> trivial

theorem passes_decodeScalar (p : Primitive) (what : String) (a : Address)
    (build : p.Carrier → Payload) : (d.decodeScalar p what a build).Passes m := by
  refine .bind (Peek.passes_scalar _ _ _) fun value => ?_
  split <;> trivial

theorem passes_decodePointer (what : String) (a : Address)
    {build : Address → Peek (Except DecodeFault Payload)} (h : ∀ b, (build b).Passes m) :
    (d.decodePointer what a build).Passes m := by
  refine .bind (Peek.passes_pointer _ _) fun value => ?_
  split
  . apply h
  . trivial

theorem passes_decodePayload (hm : m.Exact) (tag : UInt8) (a : Address) :
    (d.decodePayload tag a).Passes m := by
  have hstring (hint : Option Bool) :
      (d.decodePointer "string pointer" a fun b => d.decodeString b hint).Passes m :=
    d.passes_decodePointer _ a fun b => d.passes_decodeString hm b hint
  have hobject (what : String) (kind : ObjectKind) : (d.decodeObject what kind a).Passes m :=
    d.passes_decodePointer what a fun _ => trivial
  unfold decodePayload
  cases Tag.classify d.version tag with
  | nil | boolFalse | boolTrue => trivial
  | boolean | float | integer => apply passes_decodeScalar
  | lightUserData => exact d.passes_decodePointer _ a fun _ => trivial
  | string | shortString | longString => apply hstring
  | function => exact d.passes_decodePointer _ a fun b => d.passes_decodeClosure b
  | table | luaClosure | lightCFunction | cClosure | userData | thread => apply hobject
  | unknown raw => trivial

theorem passes_decodeTagged (hm : m.Exact) (tag : UInt8) (payload cell : Address) :
    (d.decodeTagged tag payload cell).Passes m :=
  .bind (d.passes_decodePayload hm tag payload) fun _ => trivial

theorem passes_readTag (cell : Address) : (d.readTag cell).Passes m := by
  refine .bind (Cursor.passes_verify (Cursor.isAlignment_size .u64)) fun _ => ?_
  refine .bind (Cursor.passes_verify (Cursor.isAlignment_size _)) fun _ => ?_
  dsimp only
  split
  . exact .bind (Peek.passes_scalar _ _ _) fun _ => trivial
  . exact .bind (Peek.passes_scalar _ _ _) fun _ => trivial

theorem passes_readValue (hm : m.Exact) (cell : Address) : (d.readValue cell).Passes m := by
  refine .bind (d.passes_readTag cell) fun raw => ?_
  split
  . trivial
  . split
    . apply d.passes_decodeTagged hm
    . trivial

theorem passes_readCells (hm : m.Exact) (count : Nat) (cell : Address) (out : Array Value) :
    (d.readCells count cell out).Passes m := by
  induction count generalizing cell out with
  | zero => trivial
  | succ count ih => exact .bind (d.passes_readValue hm cell) fun value => ih _ _

theorem passes_strideSteps : (d.strideSteps.forM (Cursor.verify d.target)).Passes m := by
  have hmove (p : Primitive) : (Cursor.verify d.target (.skip p)).Passes m :=
    Cursor.passes_verify (Cursor.isAlignment_size p)
  have halign : (Cursor.verify d.target (.alignTo 8)).Passes m :=
    Cursor.passes_verify (show Address.isAlignment 8 by decide)
  refine .bind (hmove .u64) fun _ => ?_
  refine .bind (hmove _) fun _ => ?_
  refine .bind halign fun _ => ?_
  trivial

theorem passes_readValues (hm : m.Exact) (a : Address) (count : Nat) :
    (d.readValues a count).Passes m := by
  unfold readValues
  dsimp only
  split
  on_goal 1 => refine .bind (Peek.passes_report _) fun _ => ?_
  all_goals
    refine .bind d.passes_strideSteps fun _ => ?_
    refine .bind (d.passes_readCells hm _ _ _) fun values => ?_
    trivial

theorem passes_readString (hm : m.Exact) (a : Address) : (d.readString a).Passes m :=
  .bind (d.passes_decodeString hm a none) fun _ => trivial

end Decoder

namespace LuaFunction

variable (m : Memory) (t : Target)

theorem passes_read (version : Version) (a : Address) : (read t version a).Passes m := by
  unfold read
  split
  . trivial
  . refine .bind (Prototype.passes_read m _ _ _) fun header => ?_
    split <;> trivial

theorem passes_ofClosure (version : Version) (closure : Address) :
    (ofClosure t version closure).Passes m := by
  refine .bind (Closure.passes_prototype m _ _ _) fun proto => ?_
  split
  . trivial
  . apply passes_read

theorem passes_readSource {m : Memory} (hm : m.Exact) (f : LuaFunction) :
    (readSource t f).Passes m := by
  unfold readSource
  cases f.source with
  | found name | missing => trivial
  | unread | failed =>
    dsimp only
    split
    . trivial
    . refine .bind ?_ fun name => ?_
      . refine .bind (StringHeader.passes_read m _ _ _ _) fun header => ?_
        split
        . trivial
        . exact .bind (StringHeader.passes_text hm _ _) fun _ => trivial
      . split <;> trivial

theorem passes_readLocal (version : Version) (slot : Address) :
    (readLocal t version slot).Passes m := by
  refine .bind (Peek.passes_pointer _ _) fun proto => ?_
  split
  . trivial
  . split
    . trivial
    . refine .bind (Prototype.passes_read m _ _ _) fun header => ?_
      split <;> trivial

theorem passes_readSlots (f : LuaFunction) (count : Nat) (slot : Address)
    (out : Array LocalFunction) : (readSlots t f count slot out).Passes m := by
  induction count generalizing slot out with
  | zero => trivial
  | succ count ih =>
    refine .bind (passes_readLocal m t _ _) fun nested => ?_
    split
    . apply ih
    . exact .bind (Peek.passes_report _) fun _ => ih _ _

theorem passes_readLocals (f : LuaFunction) : (readLocals t f).Passes m := by
  unfold readLocals
  dsimp only
  split
  . trivial
  . exact .bind (passes_readSlots m t f _ _ _) fun _ => trivial

end LuaFunction

namespace StateSymbols

theorem passes_register {m : Memory} (hm : m.Exact) (t : Target) (s : StateSymbols LuaFunction)
    (f : LuaFunction) : (s.register t f).Passes m := by
  unfold register
  split
  . trivial
  . refine .bind (LuaFunction.passes_readSource t hm f) fun f => ?_
    split
    . trivial
    . dsimp only
      split
      on_goal 1 => refine .bind (Peek.passes_report _) fun _ => ?_
      all_goals
        split
        . trivial
        . split
          . exact .bind (LuaFunction.passes_readLocals m t f) fun _ => trivial
          . trivial

end StateSymbols

namespace Snapshot

/--
A debug build carries the computation out to its end over the image, and the outcome is the result.
-/
def Completes {α : Type} (s : Snapshot) (p : Peek α) : Prop :=
  p.guarded s.guardedRead = .ok (p.result s.memory)

theorem completes_of_passes {α : Type} {s : Snapshot} {p : Peek α} (h : p.Passes s.memory) :
    s.Completes p :=
  h.guarded_eq s.guardedRead_eq

/--
A debug build is not stopped by anything that an image holds: reading values, strings and functions
comes to its end, and so does looking up what belongs to a function and registering it.
-/
theorem debug_build_completes (s : Snapshot) (version : Version) (maxString : Nat) :
    let d : Decoder := ⟨s.target, version, maxString⟩
    (∀ cell, s.Completes (d.readValue cell)) ∧
    (∀ a count, s.Completes (d.readValues a count)) ∧
    (∀ tag payload cell, s.Completes (d.decodeTagged tag payload cell)) ∧
    (∀ a, s.Completes (d.readString a)) ∧
    (∀ a, s.Completes (LuaFunction.read s.target version a)) ∧
    (∀ closure, s.Completes (LuaFunction.ofClosure s.target version closure)) ∧
    ∀ f : LuaFunction, f.WasRead →
      s.Completes (f.readSource s.target) ∧ s.Completes (f.readLocals s.target) ∧
      ∀ symbols : StateSymbols LuaFunction, s.Completes (symbols.register s.target f) ∧
        ∃ answer, (symbols.register s.target f).result s.memory = .ok answer := by
  intro d
  have hs := s.exact_memory
  refine ⟨?_, ?_, ?_, ?_, ?_, ?_, ?_⟩
  . intro cell
    apply completes_of_passes (d.passes_readValue hs cell)
  . intro a count
    apply completes_of_passes (d.passes_readValues hs a count)
  . intro tag payload cell
    apply completes_of_passes (d.passes_decodeTagged hs tag payload cell)
  . intro a
    apply completes_of_passes (d.passes_readString hs a)
  . intro a
    apply completes_of_passes (LuaFunction.passes_read _ _ version a)
  . intro closure
    apply completes_of_passes (LuaFunction.passes_ofClosure _ _ version closure)
  . intro f hf
    refine ⟨?_, ?_, ?_⟩
    . apply completes_of_passes (LuaFunction.passes_readSource _ hs f)
    . apply completes_of_passes (LuaFunction.passes_readLocals _ _ f)
    . intro symbols
      refine ⟨completes_of_passes (StateSymbols.passes_register hs _ symbols f), ?_⟩
      -- a function that was read has an address, which is all that registering asks for
      have hregister := StateSymbols.result_register s.memory symbols hf.isNull_eq_false
      rw [show s.target = s.memory.target from rfl, hregister]
      split
      . exact ⟨_, rfl⟩
      . split <;> exact ⟨_, rfl⟩

theorem debug_build_completes_garbage :
    let s : Snapshot := ⟨⟨.eight, .big⟩, [⟨⟨0xFFFFFFFFFFFFFF80⟩, #[0xFF, 0xFF, 0xFF]⟩,
      ⟨⟨0xFFFFFFFFFFFFFF00⟩, Array.replicate 300 0xFF⟩]⟩
    ∃ f : LuaFunction, f.WasRead ∧ f.address = ⟨0xFFFFFFFFFFFFFF00⟩ ∧
      f.header.source = ⟨0xFFFFFFFFFFFFFFFF⟩ ∧ f.header.nestedSize = -1 ∧
      s.Completes (f.readSource s.target) ∧ s.Completes (f.readLocals s.target) ∧
      s.Completes ((StateSymbols.empty : StateSymbols LuaFunction).register s.target f) := by
  intro s
  have hread : ((LuaFunction.read s.target .v53 ⟨0xFFFFFFFFFFFFFF00⟩).result s.memory) = .ok
      ⟨.v53, ⟨0xFFFFFFFFFFFFFF00⟩,
        ⟨0xFF, true, 0xFF, -1, -1, -1, -1, ⟨0xFFFFFFFFFFFFFFFF⟩, ⟨0xFFFFFFFFFFFFFFFF⟩⟩,
        .unread, .null, 0, 0, #[]⟩ := by
    decide +kernel
  have hf := LuaFunction.WasRead.read (m := s.memory) hread
  have h := (debug_build_completes s .v53 0).2.2.2.2.2.2 _ hf
  exact ⟨_, hf, rfl, rfl, rfl, h.1, h.2.1, (h.2.2 _).1⟩

end Snapshot

end LuaScope
