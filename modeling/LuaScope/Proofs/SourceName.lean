import LuaScope.Memory.Snapshot
import LuaScope.Proofs.OneSource
import LuaScope.Proofs.StringContent
import LuaScope.Proofs.Utf8

/-!
This module contains the proof of which sources are told apart. A source is known by the text of the
first bytes of its name, so two names are told apart if these texts differ, as they do for different
names in UTF-8 that are not too long.
-/

namespace LuaScope

namespace Memory

variable {m : Memory} {a : Address} {bs : List UInt8}

/--
The bytes can be read from an address on, either any number of them at once or each of them alone.
In the latter case a range of them may be unreadable, but is not read as other bytes.
-/
inductive Contains (m : Memory) (a : Address) (bs : List UInt8) : Prop where
  | whole : (∀ n ≤ bs.length, m.read a n = some (bs.take n)) → Contains m a bs
  | single : m.Spells a bs → m.AgreesWithin a bs.length → Contains m a bs

theorem Spells.take (h : m.Spells a bs) (n : Nat) : m.Spells a (bs.take n) := by
  intro i hi
  rw [List.getElem_take]
  apply h i

theorem AgreesWithin.mono {n k : Nat} (h : m.AgreesWithin a n) (hk : k ≤ n) :
    m.AgreesWithin a k := by
  intro o l cs hfits hread
  apply h o l cs (by omega) hread

theorem AgreesWithin.eq_take {n : Nat} (h : m.AgreesWithin a bs.length) (hbs : m.Spells a bs)
    (hn : n ≤ bs.length) {cs : List UInt8} (hread : m.read a n = some cs) : cs = bs.take n := by
  rcases h 0 n cs (by omega) (by rw [Address.add_zero]; exact hread) with ⟨hlen, hcs⟩
  rw [Address.add_zero] at hcs
  apply hcs.eq_of_length_eq (hbs.take n)
  rw [hlen, List.length_take, Nat.min_eq_left hn]

theorem Leads.eq_take {n : Nat} {cs : List UInt8} (h : m.Leads a n cs) (hbs : m.Spells a bs)
    (hn : n ≤ bs.length) : cs = bs.take n := by
  apply h.spells.eq_of_length_eq (hbs.take n)
  rw [List.length_take, Nat.min_eq_left hn]
  apply Nat.le_antisymm h.le
  apply Nat.le_of_not_lt
  intro hlt
  apply h.stops hlt
  apply hbs.readable
  omega

end Memory

namespace StringHeader

variable {m : Memory} {h : StringHeader} {bs : List UInt8}

theorem result_bytes_of_contains (hlen : h.length = bs.length) (hbs : m.Contains h.content bs)
    (limit : Nat) : ∃ cut, (h.bytes limit).result m = some (bs.take limit, cut) := by
  have hle : min h.length limit ≤ bs.length := by omega
  have htake : bs.take (min h.length limit) = bs.take limit := by
    rw [hlen, List.take_eq_take_iff]
    omega
  simp only [bytes, Peek.result_bind]
  cases hread : (Peek.bytes h.content (min h.length limit)).result m with
  | some all =>
    have hall : all = bs.take (min h.length limit) := by
      cases hbs with
      | whole hwhole => exact Option.some.inj (hread.symm.trans (hwhole _ hle))
      | single hspells hagrees => exact hagrees.eq_take hspells hle hread
    rw [hall, htake]
    exact ⟨_, rfl⟩
  | none =>
    cases hbs with
    | whole hwhole =>
      rw [show (Peek.bytes h.content _).result m = _ from hwhole _ hle] at hread
      contradiction
    | single hspells hagrees =>
      have hleads := Peek.leading_leads_of_within (hagrees.mono hle)
      have hall := hleads.eq_take hspells hle
      simp only [Peek.result_bind]
      generalize (Peek.leading h.content (min h.length limit)).result m = all at hall
      -- the prefix is empty only if nothing was wanted
      have hsome : ¬(all.isEmpty && decide (0 < min h.length limit)) = true := by
        rw [Bool.and_eq_true, decide_eq_true_eq, Array.isEmpty_iff_size_eq_zero,
          ← Array.length_toList, hall, List.length_take]
        omega
      rw [if_neg hsome, hall, htake]
      exact ⟨_, rfl⟩

theorem result_text_of_contains (hlen : h.length = bs.length) (hbs : m.Contains h.content bs)
    (limit : Nat) :
    ((h.text limit).result m).map Prod.fst = some (Utf8.decodeLossy (bs.take limit)) := by
  rcases result_bytes_of_contains hlen hbs limit with ⟨cut, hbytes⟩
  simp only [text, Peek.result_bind]
  rw [hbytes]
  rfl

end StringHeader

namespace LuaFunction

def sourceName (bs : List UInt8) : String :=
  Utf8.decodeLossy (bs.take maxSourceLength)

theorem sourceName_ne {x y : String} (hx : (Utf8.encode x).length ≤ maxSourceLength)
    (hy : (Utf8.encode y).length ≤ maxSourceLength) (h : x ≠ y) :
    sourceName (Utf8.encode x) ≠ sourceName (Utf8.encode y) := by
  unfold sourceName
  rw [List.take_of_length_le hx, List.take_of_length_le hy, Utf8.decodeLossy_encode,
    Utf8.decodeLossy_encode]
  exact h

inductive WasReadFrom (m : Memory) : LuaFunction → Prop where
  | read {version : Version} {address : Address} {f : LuaFunction} :
    (LuaFunction.read m.target version address).result m = .ok f → WasReadFrom m f
  | ofClosure {version : Version} {closure : Address} {f : LuaFunction} :
    (LuaFunction.ofClosure m.target version closure).result m = .ok f → WasReadFrom m f
  | readSource {f : LuaFunction} :
    WasReadFrom m f → WasReadFrom m ((LuaFunction.readSource m.target f).result m)
  | readLocals {f : LuaFunction} :
    WasReadFrom m f → WasReadFrom m ((LuaFunction.readLocals m.target f).result m)

structure HasSource (m : Memory) (f : LuaFunction) (bs : List UInt8) : Prop where
  isNull_eq_false : f.header.source.isNull = false
  contains : ∃ h, (StringHeader.read m.target f.version f.header.source none).result m = some h ∧
    h.length = bs.length ∧ m.Contains h.content bs

variable {m : Memory} {f : LuaFunction} {bs : List UInt8}

theorem WasReadFrom.wasRead (h : f.WasReadFrom m) : f.WasRead := by
  induction h with
  | read h => exact .read h
  | ofClosure h => exact .ofClosure h
  | readSource _ ih => exact .readSource ih
  | readLocals _ ih => exact .readLocals ih

theorem HasSource.result_sourceText (h : f.HasSource m bs) :
    (readSource.sourceText m.target f.version f.header.source).result m = some (sourceName bs) := by
  rcases h.contains with ⟨header, hheader, hlen, hbs⟩
  simp only [readSource.sourceText, Peek.result_bind, hheader]
  apply StringHeader.result_text_of_contains hlen hbs

theorem HasSource.source_located (h : f.HasSource m bs)
    (hf : f.source = .unread ∨ f.source = .found (sourceName bs)) :
    (f.located m).source = .found (sourceName bs) := by
  unfold located readSource
  rcases hf with hf | hf
  . simp only [hf, h.isNull_eq_false, Bool.false_eq_true, if_false, Peek.result_bind,
      h.result_sourceText]
    rfl
  . simp only [hf]
    exact hf

theorem WasReadFrom.source (hf : f.WasReadFrom m) (h : f.HasSource m bs) :
    f.source = .unread ∨ f.source = .found (sourceName bs) := by
  induction hf with
  | read hread => exact Or.inl (unread_of_read _ _ hread).1
  | ofClosure hread =>
    rw [LuaFunction.ofClosure, Peek.result_bind] at hread
    split at hread
    . contradiction
    . exact Or.inl (unread_of_read _ _ hread).1
  | @readSource f hf ih =>
    rcases exists_located m f with ⟨source, address, hlocated⟩
    have h' : f.HasSource m bs := by
      rw [show (LuaFunction.readSource m.target f).result m = _ from hlocated] at h
      exact ⟨h.isNull_eq_false, h.contains⟩
    exact Or.inr (h'.source_located (ih h'))
  | @readLocals f hf ih =>
    rcases exists_readLocals m f m.target with ⟨startLine, endLine, locals, hlocals⟩
    rw [hlocals] at h ⊢
    exact ih ⟨h.isNull_eq_false, h.contains⟩

theorem WasReadFrom.value?_located (hf : f.WasReadFrom m) (h : f.HasSource m bs) :
    (f.located m).source.value? = some (sourceName bs) := by
  rw [h.source_located (hf.source h)]
  rfl

end LuaFunction

namespace Event

open LuaFunction

theorem holds_register {m : Memory} {f : LuaFunction} {bs : List UInt8} (hf : f.WasReadFrom m)
    (hbs : f.HasSource m bs) (es : List Event) (v : Address) (name : String) (a : Address) :
    ((replay (es ++ [⟨v, m, .register f hf.wasRead⟩])).symbols v).Holds name a ↔
      ((replay es).symbols v).Holds name a ∨ name = sourceName bs ∧ a = f.address := by
  have hregisters : registers a ⟨v, m, .register f hf.wasRead⟩ =
      if f.address = a then some (sourceName bs, f.completed m) else none := by
    simp only [registers, hf.value?_located hbs, Option.map_some]
  rw [holds_replay_iff, holds_replay_iff, recent_append, if_pos rfl]
  unfold sourceNames
  simp only [isDrop, Bool.false_eq_true, if_false, List.filterMap_append, List.mem_append]
  apply or_congr_right
  by_cases haddress : f.address = a
  . simp [hregisters, haddress]
  . simp [hregisters, haddress, Ne.symm haddress]

/--
Two functions whose sources are completely readable go into the sources that are known by their
names. These are one only if the texts that the names begin with are the same, and they differ for
different names in UTF-8 that are not cut.
-/
theorem holds_of_two_sources {m : Memory} {f g : LuaFunction} {bs cs : List UInt8}
    (hf : f.WasReadFrom m) (hg : g.WasReadFrom m) (hbs : f.HasSource m bs)
    (hcs : g.HasSource m cs) (es : List Event) (v : Address) :
    let before := (replay es).symbols v
    let after := (replay (es ++ [⟨v, m, .register f hf.wasRead⟩] ++
      [⟨v, m, .register g hg.wasRead⟩])).symbols v
    (∀ name a, after.Holds name a ↔ before.Holds name a ∨
      name = sourceName bs ∧ a = f.address ∨ name = sourceName cs ∧ a = g.address) ∧
    (f.address ≠ g.address →
      (∀ name, ¬before.Holds name f.address ∧ ¬before.Holds name g.address) →
      ((∃ name, after.Holds name f.address ∧ after.Holds name g.address) ↔
        sourceName bs = sourceName cs)) ∧
    ∀ x y, bs = Utf8.encode x → cs = Utf8.encode y → bs.length ≤ maxSourceLength →
      cs.length ≤ maxSourceLength → bs ≠ cs → sourceName bs ≠ sourceName cs := by
  intro before after
  have hafter (name : String) (a : Address) : after.Holds name a ↔ before.Holds name a ∨
      name = sourceName bs ∧ a = f.address ∨ name = sourceName cs ∧ a = g.address := by
    rw [holds_register hg hcs, holds_register hf hbs, or_assoc]
  refine ⟨hafter, ?_, ?_⟩
  . intro hne hbefore
    constructor
    . rintro ⟨name, hfname, hgname⟩
      rw [hafter] at hfname hgname
      rcases hfname.resolve_left (hbefore name).1 with ⟨hf, _⟩ | ⟨_, heq⟩
      . rcases hgname.resolve_left (hbefore name).2 with ⟨_, heq⟩ | ⟨hg, _⟩
        . exact absurd heq.symm hne
        . rw [← hf, ← hg]
      . exact absurd heq hne
    . intro heq
      refine ⟨sourceName bs, ?_, ?_⟩
      . rw [hafter]
        exact Or.inr (Or.inl ⟨rfl, rfl⟩)
      . rw [hafter, heq]
        exact Or.inr (Or.inr ⟨rfl, rfl⟩)
  . rintro x y rfl rfl hx hy hne
    apply sourceName_ne hx hy
    intro heq
    rw [heq] at hne
    contradiction

def imageOfTwo (x y : UInt8) : Snapshot :=
  let bytes : List UInt8 := .replicate 32 0 ++ [0x90, 0x10] ++ .replicate 70 0 ++ [0xA8, 0x10] ++
    .replicate 50 0 ++ [1, 0, 0, 0, x] ++ .replicate 19 0 ++ [1, 0, 0, 0, y]
  ⟨⟨.four, .little⟩, [⟨⟨0x1000⟩, bytes.toArray⟩]⟩

def emptyFunction (address source : Address) : LuaFunction :=
  ⟨.v51, address, ⟨0, false, 0, 0, 0, 0, 0, .null, source⟩, .unread, .null, 0, 0, #[]⟩

theorem holds_of_two_letters :
    let m := (imageOfTwo 0x61 0x62).memory
    ∃ (f g : LuaFunction) (hf : f.WasReadFrom m) (hg : g.WasReadFrom m),
      f.HasSource m [0x61] ∧ g.HasSource m [0x62] ∧ f.address = ⟨0x1000⟩ ∧ g.address = ⟨0x1048⟩ ∧
      ¬∃ name, ((replay ([] ++ [⟨⟨1⟩, m, .register f hf.wasRead⟩] ++
          [⟨⟨1⟩, m, .register g hg.wasRead⟩])).symbols ⟨1⟩).Holds name f.address ∧
        ((replay ([] ++ [⟨⟨1⟩, m, .register f hf.wasRead⟩] ++
          [⟨⟨1⟩, m, .register g hg.wasRead⟩])).symbols ⟨1⟩).Holds name g.address := by
  intro m
  have hf : (emptyFunction ⟨0x1000⟩ ⟨0x1090⟩).WasReadFrom m :=
    @WasReadFrom.read m .v51 ⟨0x1000⟩ _ (by decide +kernel)
  have hg : (emptyFunction ⟨0x1048⟩ ⟨0x10A8⟩).WasReadFrom m :=
    @WasReadFrom.read m .v51 ⟨0x1048⟩ _ (by decide +kernel)
  have hbs : (emptyFunction ⟨0x1000⟩ ⟨0x1090⟩).HasSource m [0x61] :=
    ⟨rfl, ⟨false, 1, ⟨0x10A0⟩⟩, by decide +kernel, rfl, .whole (by decide +kernel)⟩
  have hcs : (emptyFunction ⟨0x1048⟩ ⟨0x10A8⟩).HasSource m [0x62] :=
    ⟨rfl, ⟨false, 1, ⟨0x10B8⟩⟩, by decide +kernel, rfl, .whole (by decide +kernel)⟩
  refine ⟨_, _, hf, hg, hbs, hcs, rfl, rfl, ?_⟩
  rw [(holds_of_two_sources hf hg hbs hcs [] ⟨1⟩).2.1 (by decide) fun _ => ⟨nofun, nofun⟩]
  decide +kernel

theorem merged_without_utf8 :
    let m := (imageOfTwo 0xFF 0xFE).memory
    ∃ (f g : LuaFunction) (hf : f.WasReadFrom m) (hg : g.WasReadFrom m),
      f.HasSource m [0xFF] ∧ g.HasSource m [0xFE] ∧ f.address = ⟨0x1000⟩ ∧ g.address = ⟨0x1048⟩ ∧
      let after := (replay [⟨⟨1⟩, m, .register f hf.wasRead⟩,
        ⟨⟨1⟩, m, .register g hg.wasRead⟩]).symbols ⟨1⟩
      after.sources.size = 1 ∧
        after.Holds (String.singleton Utf8.replacement) f.address ∧
        after.Holds (String.singleton Utf8.replacement) g.address := by
  intro m
  refine ⟨emptyFunction ⟨0x1000⟩ ⟨0x1090⟩, emptyFunction ⟨0x1048⟩ ⟨0x10A8⟩,
    @WasReadFrom.read m .v51 ⟨0x1000⟩ _ ?_, @WasReadFrom.read m .v51 ⟨0x1048⟩ _ ?_,
    ⟨rfl, ⟨false, 1, ⟨0x10A0⟩⟩, ?_, rfl, .whole ?_⟩,
    ⟨rfl, ⟨false, 1, ⟨0x10B8⟩⟩, ?_, rfl, .whole ?_⟩, rfl, rfl, ?_⟩
  all_goals decide +kernel

end Event

end LuaScope
