import Mathlib.Tactic.TFAE
import LuaScope.Memory.Snapshot
import LuaScope.Proofs.SymbolHistory

/-!
This module contains the proof of when a function belongs to one source. The functions of each
source are kept apart, so that an address is in several of them once functions at it were registered
under several names, as happens when the memory changes in between. What a search through all
sources finds depends on their order then, and only then.
-/

namespace LuaScope

namespace StateSymbols

variable {φ : Type}

def Holds (s : StateSymbols φ) (name : String) (a : Address) : Prop :=
  ((s.source? name).bind (·.functions.find? a)).isSome

instance (s : StateSymbols φ) (name : String) (a : Address) : Decidable (s.Holds name a) :=
  inferInstanceAs (Decidable (_ = true))

def HasOneSource (s : StateSymbols φ) (a : Address) : Prop :=
  ∀ name₁ name₂, s.Holds name₁ a → s.Holds name₂ a → name₁ = name₂

/--
The same symbols with the sources in any order, such as a hash table has them in.
-/
def Reorders (s' s : StateSymbols φ) : Prop :=
  s'.sources.entries.Perm s.sources.entries

theorem source?_of_reorders {s' s : StateSymbols φ} (h : s'.Reorders s) (name : String) :
    s'.source? name = s.source? name := by
  apply Option.ext
  intro source
  unfold source?
  rw [Table.find?_eq_some_iff, Table.find?_eq_some_iff, h.mem_iff]

theorem function?_eq_none_iff {s : StateSymbols φ} {a : Address} :
    s.function? a = none ↔ ∀ name, (s.source? name).bind (·.functions.find? a) = none := by
  unfold function? source?
  simp only [List.findSome?_eq_none_iff, Table.values, List.mem_map, Prod.exists,
    Option.bind_eq_none_iff, Table.find?_eq_some_iff]
  constructor
  . intro h name source hmem
    apply h
    exact ⟨name, source, hmem, rfl⟩
  . rintro h _ ⟨name, source, hmem, rfl⟩
    apply h name source hmem

theorem exists_of_function? {s : StateSymbols φ} {a : Address} {f : φ}
    (h : s.function? a = some f) :
    ∃ name, (s.source? name).bind (·.functions.find? a) = some f := by
  unfold function? at h
  rcases List.exists_of_findSome?_eq_some h with ⟨source, hmem, hfind⟩
  rw [Table.values, List.mem_map] at hmem
  rcases hmem with ⟨⟨name, source⟩, hmem, rfl⟩
  refine ⟨name, ?_⟩
  have hsource : s.source? name = some source := Table.find?_eq_some_iff.mpr hmem
  rw [hsource]
  exact hfind

theorem exists_reorders_function? {s : StateSymbols φ} {name : String} {a : Address} {f : φ}
    (h : (s.source? name).bind (·.functions.find? a) = some f) :
    ∃ s', Reorders s' s ∧ s'.function? a = some f := by
  rw [Option.bind_eq_some_iff] at h
  rcases h with ⟨source, hsource, hf⟩
  have hmem := Table.find?_eq_some_iff.mp hsource
  rcases List.append_of_mem hmem with ⟨before, after, hentries⟩
  have hperm : ((name, source) :: (before ++ after)).Perm s.sources.entries := by
    rw [hentries]
    apply List.perm_middle.symm
  have hnodup := (hperm.map Prod.fst).nodup_iff.mpr s.sources.nodup
  refine ⟨⟨⟨_, hnodup⟩, s.names, s.scripts⟩, hperm, ?_⟩
  simp [function?, Table.values, hf]

end StateSymbols

namespace LuaFunction

theorem source_completed (m : Memory) (f : LuaFunction) :
    (f.completed m).source = (f.located m).source := by
  unfold completed
  split
  . rcases exists_readLocals m (f.located m) m.target with ⟨startLine, endLine, locals, h⟩
    rw [h]
  . rfl

end LuaFunction

namespace Event

open StateSymbols

def registers (a : Address) (e : Event) : Option (String × LuaFunction) :=
  match e.operation with
  | .register f _ =>
    if f.address = a then
      (f.located e.memory).source.value?.map fun name => (name, f.completed e.memory)
    else none
  | _ => none

def sourceNames (a : Address) (es : List Event) : List String :=
  es.filterMap fun e => (e.registers a).map Prod.fst

theorem adds_eq_some_iff {name : String} {a : Address} {e : Event} {f : LuaFunction} :
    e.adds name a = some f ↔ e.registers a = some (name, f) := by
  unfold adds registers
  cases e.operation with
  | register g hg =>
    by_cases haddress : g.address = a
    . simp [haddress]
    . simp [haddress]
  | fetch | drop | addName | addScript | resolve => simp

theorem mem_sourceNames {es : List Event} {e : Event} {name : String} {a : Address}
    {f : LuaFunction} (he : e ∈ es) (h : e.registers a = some (name, f)) :
    name ∈ sourceNames a es :=
  List.mem_filterMap.mpr ⟨e, he, congrArg (Option.map Prod.fst) h⟩

theorem value?_of_registers {name : String} {a : Address} {e : Event} {f : LuaFunction}
    (h : e.registers a = some (name, f)) : f.source.value? = some name := by
  unfold registers at h
  cases hop : e.operation with
  | register g hg =>
    rw [hop] at h
    dsimp only at h
    split at h
    . rw [Option.map_eq_some_iff] at h
      rcases h with ⟨name', hname, heq⟩
      injection heq with heq hcompleted
      subst heq
      rw [← hcompleted, LuaFunction.source_completed]
      exact hname
    . contradiction
  | fetch | drop | addName | addScript | resolve =>
    rw [hop] at h
    contradiction

section

variable (es : List Event) (v a : Address)

theorem function_replay (name : String) :
    (((replay es).symbols v).source? name).bind (·.functions.find? a) =
      (recent v es).findSome? (adds name a) := by
  rw [symbols_replay]
  apply ((records_foldl (recent v es)).sources name).function

theorem holds_replay_iff {name : String} :
    ((replay es).symbols v).Holds name a ↔ name ∈ sourceNames a (recent v es) := by
  unfold Holds sourceNames
  rw [function_replay, List.findSome?_isSome_iff]
  simp only [List.mem_filterMap, Option.map_eq_some_iff, Prod.exists, exists_and_right,
    exists_eq_right, Option.isSome_iff_exists, adds_eq_some_iff]

theorem value?_of_replay {name : String} {f : LuaFunction}
    (h : (((replay es).symbols v).source? name).bind (·.functions.find? a) = some f) :
    f.source.value? = some name := by
  rw [function_replay] at h
  rcases List.exists_of_findSome?_eq_some h with ⟨e, _, hadds⟩
  apply value?_of_registers (adds_eq_some_iff.mp hadds)

theorem findSome?_adds_of_agree {es : List Event} {a : Address} {name : String}
    (hagree : ∀ name₁ ∈ sourceNames a es, ∀ name₂ ∈ sourceNames a es, name₁ = name₂)
    (hname : name ∈ sourceNames a es) :
    es.findSome? (adds name a) = (es.findSome? (registers a)).map Prod.snd := by
  have hadds (e : Event) (he : e ∈ es) : e.adds name a = (e.registers a).map Prod.snd := by
    cases hregisters : e.registers a with
    | none =>
      rw [Option.map_none, Option.eq_none_iff_forall_ne_some]
      intro f hf
      rw [adds_eq_some_iff, hregisters] at hf
      contradiction
    | some registered =>
      rcases registered with ⟨other, f⟩
      have hother := mem_sourceNames he hregisters
      rw [Option.map_some, adds_eq_some_iff, hregisters, hagree other hother name hname]
  rw [List.map_findSome?, ← List.head?_filterMap, ← List.head?_filterMap]
  rw [List.filterMap_congr hadds]
  rfl

theorem function?_of_agree {s : StateSymbols LuaFunction}
    (hagree : ∀ name₁ ∈ sourceNames a (recent v es), ∀ name₂ ∈ sourceNames a (recent v es),
      name₁ = name₂)
    (hs : Reorders s ((replay es).symbols v)) :
    s.function? a = ((recent v es).findSome? (registers a)).map Prod.snd := by
  cases hf : s.function? a with
  | none =>
    rw [function?_eq_none_iff] at hf
    have hnone : (recent v es).findSome? (registers a) = none := by
      rw [List.findSome?_eq_none_iff]
      intro e he
      rw [Option.eq_none_iff_forall_ne_some]
      rintro ⟨name, f⟩ hregisters
      have hmem := mem_sourceNames he hregisters
      rw [← holds_replay_iff, Holds, ← source?_of_reorders hs, hf] at hmem
      contradiction
    rw [hnone]
    rfl
  | some f =>
    rcases exists_of_function? hf with ⟨name, hname⟩
    rw [source?_of_reorders hs] at hname
    have hmem := (holds_replay_iff es v a).mp (Option.isSome_of_eq_some hname)
    rw [← findSome?_adds_of_agree hagree hmem, ← function_replay, hname]

/--
The functions at an address belong to one source, and what a search through all sources finds does
not depend on their order, as long as all functions registered at it had one name of their source.
The search finds the first of them then.
-/
theorem one_source_tfae :
    let symbols := (replay es).symbols v
    let names := sourceNames a (recent v es)
    List.TFAE [
      symbols.HasOneSource a,
      ∀ name₁ ∈ names, ∀ name₂ ∈ names, name₁ = name₂,
      ∀ s, Reorders s symbols →
        s.function? a = ((recent v es).findSome? (registers a)).map Prod.snd,
      ∀ s₁ s₂, Reorders s₁ symbols → Reorders s₂ symbols → s₁.function? a = s₂.function? a] := by
  intro symbols names
  have hholds (name : String) : symbols.Holds name a ↔ name ∈ names := holds_replay_iff es v a
  tfae_have 1 ↔ 2 := by
    constructor
    . intro h name₁ h₁ name₂ h₂
      apply h name₁ name₂ ((hholds _).mpr h₁) ((hholds _).mpr h₂)
    . intro h name₁ name₂ h₁ h₂
      apply h name₁ ((hholds _).mp h₁) name₂ ((hholds _).mp h₂)
  tfae_have 2 → 3 := by
    intro hagree s hs
    apply function?_of_agree es v a hagree hs
  tfae_have 3 → 4 := by
    intro h s₁ s₂ hs₁ hs₂
    rw [h s₁ hs₁, h s₂ hs₂]
  tfae_have 4 → 1 := by
    intro horder name₁ name₂ h₁ h₂
    rcases Option.isSome_iff_exists.mp h₁ with ⟨f₁, hf₁⟩
    rcases Option.isSome_iff_exists.mp h₂ with ⟨f₂, hf₂⟩
    rcases exists_reorders_function? hf₁ with ⟨s₁, hs₁, hfind₁⟩
    rcases exists_reorders_function? hf₂ with ⟨s₂, hs₂, hfind₂⟩
    have heq := horder s₁ s₂ hs₁ hs₂
    rw [hfind₁, hfind₂, Option.some.injEq] at heq
    -- the functions would be the same one, and it has found but one name
    have hname := value?_of_replay es v a hf₁
    rw [heq, value?_of_replay es v a hf₂, Option.some.injEq] at hname
    exact hname.symm
  tfae_finish

end

theorem two_sources_after_renaming :
    let image (name : UInt8) : Snapshot := ⟨⟨.four, .little⟩, [⟨⟨0x1000⟩,
      .replicate 32 0 ++ #[0x48, 0x10] ++ .replicate 50 0 ++ #[1, 0, 0, 0, name]⟩]⟩
    ∃ (f : LuaFunction) (h : f.WasRead), f.address = ⟨0x1000⟩ ∧
      ¬((replay [⟨⟨1⟩, (image 0x61).memory, .register f h⟩,
        ⟨⟨1⟩, (image 0x62).memory, .register f h⟩]).symbols ⟨1⟩).HasOneSource ⟨0x1000⟩ := by
  intro image
  refine ⟨⟨.v51, ⟨0x1000⟩, ⟨0, false, 0, 0, 0, 0, 0, ⟨0⟩, ⟨0x1048⟩⟩, .unread, .null, 0, 0, #[]⟩,
    @LuaFunction.WasRead.read (image 0x61).memory .v51 ⟨0x1000⟩ _ ?_, rfl, ?_⟩
  . decide +kernel
  . intro hone
    have hnames := hone "a" "b" (by decide +kernel) (by decide +kernel)
    contradiction

end Event

end LuaScope
