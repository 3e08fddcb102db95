import LuaScope.Proofs.DecodeFaults
import LuaScope.Proofs.NestedFunctions
import LuaScope.Proofs.SymbolHistory

/-!
This module contains the proof of how the source of a function becomes known. A lookup that finds it,
or finds that there is none, is the last one that reads anything. One that fails may be made again,
and it succeeds as soon as the name can be read.
-/

namespace LuaScope

def Fetched.IsFinal {α : Type} (x : Fetched α) : Prop :=
  (∃ value, x = .found value) ∨ x = .missing

namespace StringHeader

variable {m : Memory} {t : Target} {version : Version} {a : Address}

/--
What is needed of a header can be read: the size in 5.1 and 5.2, and a tag of a string and the length
that goes with it in the later versions.
-/
def HeaderReadable (m : Memory) (t : Target) (version : Version) (a : Address) : Prop :=
  match version with
  | .v51 | .v52 => m.HasField (sizeAt version t.width a) t.width.bytes
  | .v53 | .v54 => ∃ tag, m.byte? t (tagAt t.width a) = some tag ∧
    (tag &&& 0xBF = 0x04 ∧ m.HasField (shortAt t.width a) 1 ∨
      tag &&& 0xBF = 0x14 ∧ m.HasField (sizeAt version t.width a) t.width.bytes)

theorem fieldsFrom_tag : (fieldsFrom m t version a).tag = m.byte? t (tagAt t.width a) := rfl

theorem isSome_short? : (fieldsFrom m t version a).short.isSome ↔
    m.HasField (shortAt t.width a) 1 := by
  unfold fieldsFrom
  rw [Option.isSome_map, Memory.isSome_byte?]

theorem isSome_size? : (fieldsFrom m t version a).size.isSome ↔
    m.HasField (sizeAt version t.width a) t.width.bytes := by
  unfold fieldsFrom
  rw [Option.isSome_map, Memory.isSome_pointer?]

theorem isSome_result_read (h : HeaderReadable m t version a) :
    ((read t version a none).result m).isSome := by
  rw [result_read_fieldsFrom, Fields.header?, Option.isSome_map]
  unfold Fields.length?
  cases version with
  | v51 | v52 => exact isSome_size?.mpr h
  | v53 | v54 =>
    rcases h with ⟨tag, htag, ⟨hshort, hlength⟩ | ⟨hlong, hlength⟩⟩
    . have hsplit : splitOfTag tag = some false := if_pos hshort
      simp only [known, fieldsFrom_tag, htag, Option.bind_some, hsplit]
      exact isSome_short?.mpr hlength
    . have hsplit : splitOfTag tag = some true := by simp [splitOfTag, hlong]
      simp only [known, fieldsFrom_tag, htag, Option.bind_some, hsplit]
      exact isSome_size?.mpr hlength

def ContentReadable (m : Memory) (h : StringHeader) (limit : Nat) : Prop :=
  let wanted := min h.length limit
  (m.read h.content wanted).isSome ∨
    m.AgreesWithin h.content wanted ∧ ∀ i < wanted, m.Readable (h.content + i)

theorem isSome_result_text {h : StringHeader} {limit : Nat} (hcontent : h.ContentReadable m limit) :
    ((h.text limit).result m).isSome := by
  simp only [text, bytes, Peek.result_bind]
  cases hread : (Peek.bytes h.content (min h.length limit)).result m with
  | some all => rfl
  | none =>
    rcases hcontent with hwhole | ⟨hagrees, hreadable⟩
    . rw [show m.read h.content _ = none from hread] at hwhole
      contradiction
    . have hleads := Peek.leading_leads_of_within hagrees
      simp only [Peek.result_bind]
      generalize (Peek.leading h.content (min h.length limit)).result m = out at hleads ⊢
      have hsome : ¬(out.isEmpty && decide (0 < min h.length limit)) = true := by
        rw [Bool.and_eq_true, decide_eq_true_eq]
        rintro ⟨hempty, hwanted⟩
        have hfirst := hreadable 0 hwanted
        rw [Address.add_zero, Memory.Readable, (hleads.isEmpty_iff hwanted).mp hempty] at hfirst
        contradiction
      rw [if_neg hsome]
      rfl

end StringHeader

namespace LuaFunction

structure SourceReadable (f : LuaFunction) (m : Memory) : Prop where
  header : StringHeader.HeaderReadable m m.target f.version f.header.source
  content : ∀ h, (StringHeader.read m.target f.version f.header.source none).result m = some h →
    h.ContentReadable m 4096

theorem SourceReadable.isSome_sourceText {f : LuaFunction} {m : Memory} (h : f.SourceReadable m) :
    ((readSource.sourceText m.target f.version f.header.source).result m).isSome := by
  rcases Option.isSome_iff_exists.mp (StringHeader.isSome_result_read h.header) with
    ⟨header, hheader⟩
  simp only [readSource.sourceText, Peek.result_bind, hheader]
  exact (Option.isSome_map ..).trans (StringHeader.isSome_result_text (h.content header hheader))

inductive Locates (m : Memory) (f : LuaFunction) : LuaFunction → Prop where
  | kept (h : f.source.IsFinal) : Locates m f f
  | missing (h : ¬f.source.IsFinal) (hsource : f.header.source = .null) :
    Locates m f { f with source := .missing }
  | found (h : ¬f.source.IsFinal) (hsource : f.header.source ≠ .null) (name : String)
    (hname : (readSource.sourceText m.target f.version f.header.source).result m = some name) :
    Locates m f { f with source := .found name, sourceAddress := f.header.source }
  | failed (h : ¬f.source.IsFinal) (hsource : f.header.source ≠ .null)
    (hname : (readSource.sourceText m.target f.version f.header.source).result m = none) :
    Locates m f { f with source := .failed }

theorem readSource_of_isFinal {f : LuaFunction} (h : f.source.IsFinal) (t : Target) :
    readSource t f = .done f := by
  unfold readSource
  rcases h with ⟨name, h⟩ | h
  . rw [h]
    rfl
  . rw [h]
    rfl

theorem locates_located (m : Memory) (f : LuaFunction) : Locates m f (f.located m) := by
  by_cases hfinal : f.source.IsFinal
  . rw [located, readSource_of_isFinal hfinal]
    exact .kept hfinal
  . unfold located readSource
    cases hsource : f.source with
    | found name => exact absurd (Or.inl ⟨name, hsource⟩) hfinal
    | missing => exact absurd (Or.inr hsource) hfinal
    | unread | failed =>
      dsimp only
      split
      . next hnull => exact .missing hfinal ((Address.isNull_iff _).mp hnull)
      . next hnull =>
        have hne := mt (Address.isNull_iff _).mpr hnull
        rw [Peek.result_bind]
        split
        . next name hname => exact .found hfinal hne name hname
        . next hname => exact .failed hfinal hne hname

theorem Locates.source_ne_unread {m : Memory} {f g : LuaFunction} (h : Locates m f g) :
    g.source ≠ .unread := by
  cases h with
  | kept hfinal => rcases hfinal with ⟨name, hname⟩ | hmissing <;> simp [*]
  | missing | found | failed => nofun

theorem SourceReadable.exists_found {m : Memory} {f : LuaFunction} (h : f.SourceReadable m)
    (hfinal : ¬f.source.IsFinal) (hsource : f.header.source ≠ .null) :
    ∃ name, (f.located m).source = .found name := by
  have hlocates := locates_located m f
  generalize f.located m = g at hlocates ⊢
  cases hlocates with
  | kept hkept => exact absurd hkept hfinal
  | missing _ hnull => exact absurd hnull hsource
  | found _ _ name hname => exact ⟨name, rfl⟩
  | failed _ _ hname =>
    have hsome := h.isSome_sourceText
    rw [hname] at hsome
    contradiction

inductive Lookup where
  | source (m : Memory)
  | locals (m : Memory)

def Lookup.apply (f : LuaFunction) : Lookup → LuaFunction
  | .source m => f.located m
  | .locals m => (readLocals m.target f).result m

def after (f : LuaFunction) (ls : List Lookup) : LuaFunction :=
  ls.foldl Lookup.apply f

theorem after_append (f : LuaFunction) (ls : List Lookup) (l : Lookup) :
    f.after (ls ++ [l]) = l.apply (f.after ls) := by
  rw [after, List.foldl_append]
  rfl

theorem after_induction {motive : LuaFunction → Prop} {f : LuaFunction} (hf : motive f)
    (step : ∀ g (l : Lookup), motive g → motive (l.apply g)) (ls : List Lookup) :
    motive (f.after ls) := by
  induction ls using List.reverseRecOn with
  | nil => exact hf
  | append_singleton ls l ih =>
    rw [after_append]
    exact step _ l ih

structure KnowsSource (f : LuaFunction) : Prop where
  address : f.sourceAddress = if f.source.value?.isSome then f.header.source else .null
  of_null : f.header.source = .null → f.source = .unread ∨ f.source = .missing
  of_ne_null : f.header.source ≠ .null → f.source ≠ .missing

structure Precedes (f g : LuaFunction) : Prop where
  version : g.version = f.version
  address : g.address = f.address
  header : g.header = f.header
  resolved : f.source ≠ .unread → g.source ≠ .unread
  final : f.source.IsFinal → g.source = f.source ∧ g.sourceAddress = f.sourceAddress

theorem Precedes.refl (f : LuaFunction) : Precedes f f :=
  ⟨rfl, rfl, rfl, id, fun _ => ⟨rfl, rfl⟩⟩

theorem Precedes.trans {f g h : LuaFunction} (hfg : Precedes f g) (hgh : Precedes g h) :
    Precedes f h where
  version := hgh.version.trans hfg.version
  address := hgh.address.trans hfg.address
  header := hgh.header.trans hfg.header
  resolved hf := hgh.resolved (hfg.resolved hf)
  final hf := by
    rcases hfg.final hf with ⟨hsource, haddress⟩
    rw [← hsource, ← haddress]
    apply hgh.final
    rw [hsource]
    exact hf

theorem Precedes.sourceReadable {m : Memory} {f g : LuaFunction} (h : Precedes f g)
    (hf : f.SourceReadable m) : g.SourceReadable m := by
  constructor
  . rw [h.version, h.header]
    exact hf.header
  . rw [h.version, h.header]
    exact hf.content

theorem Locates.precedes {m : Memory} {f g : LuaFunction} (h : Locates m f g) : Precedes f g := by
  cases h with
  | kept hfinal => exact .refl f
  | missing hfinal | found hfinal | failed hfinal =>
    refine ⟨rfl, rfl, rfl, ?_, ?_⟩
    . intro _
      nofun
    . intro hf
      exact absurd hf hfinal

theorem precedes_apply (f : LuaFunction) (l : Lookup) : Precedes f (l.apply f) := by
  cases l with
  | source m => exact (locates_located m f).precedes
  | locals m =>
    rw [Lookup.apply, result_readLocals]
    exact ⟨rfl, rfl, rfl, id, fun _ => ⟨rfl, rfl⟩⟩

theorem precedes_after (f : LuaFunction) (ls : List Lookup) : Precedes f (f.after ls) := by
  apply after_induction (.refl f)
  intro g l hg
  apply hg.trans
  apply precedes_apply

theorem KnowsSource.sourceAddress_eq {f : LuaFunction} (h : f.KnowsSource) :
    (∃ name, f.source = .found name) ∧ f.header.source ≠ .null ∧
        f.sourceAddress = f.header.source ∨
      (∀ name, f.source ≠ .found name) ∧ f.sourceAddress = .null := by
  have haddress := h.address
  cases hsource : f.source with
  | found name =>
    rw [hsource] at haddress
    refine Or.inl ⟨⟨name, rfl⟩, ?_, haddress⟩
    intro hnull
    have hstate := h.of_null hnull
    simp [hsource] at hstate
  | unread | missing | failed =>
    rw [hsource] at haddress
    exact Or.inr ⟨nofun, haddress⟩

theorem KnowsSource.exists_found_of_failed {m : Memory} {f : LuaFunction} (h : f.KnowsSource)
    (hfailed : f.source = .failed) (hreadable : f.SourceReadable m) :
    ∃ name, (f.located m).source = .found name := by
  apply hreadable.exists_found
  . rw [hfailed]
    rintro (⟨name, h⟩ | h) <;> contradiction
  . intro hnull
    have hstate := h.of_null hnull
    simp [hfailed] at hstate

theorem KnowsSource.of_locates {m : Memory} {f g : LuaFunction} (hf : f.KnowsSource)
    (h : Locates m f g) : g.KnowsSource := by
  -- as long as the lookup is not over there is no address to be kept
  have hnull : ¬f.source.IsFinal → f.sourceAddress = .null := by
    intro hfinal
    rw [hf.address]
    cases hsource : f.source with
    | found name => exact absurd (Or.inl ⟨name, hsource⟩) hfinal
    | unread | missing | failed => rfl
  cases h with
  | kept hfinal => exact hf
  | missing hfinal hsource =>
    exact ⟨hnull hfinal, fun _ => Or.inr rfl, fun hne => absurd hsource hne⟩
  | found hfinal hsource name hname =>
    exact ⟨rfl, fun heq => absurd heq hsource, fun _ => nofun⟩
  | failed hfinal hsource hname =>
    exact ⟨hnull hfinal, fun heq => absurd heq hsource, fun _ => nofun⟩

theorem KnowsSource.apply {f : LuaFunction} (h : f.KnowsSource) (l : Lookup) :
    (l.apply f).KnowsSource := by
  cases l with
  | source m => exact h.of_locates (locates_located m f)
  | locals m =>
    rw [Lookup.apply, result_readLocals]
    exact ⟨h.address, h.of_null, h.of_ne_null⟩

theorem KnowsSource.after {f : LuaFunction} (h : f.KnowsSource) (ls : List Lookup) :
    (f.after ls).KnowsSource := by
  apply after_induction h
  intro g l hg
  exact hg.apply l

theorem knowsSource_of_read {m : Memory} {t : Target} {version : Version} {a : Address}
    {f : LuaFunction} (h : (read t version a).result m = .ok f) : f.KnowsSource := by
  rcases unread_of_read m f h with ⟨hsource, haddress, -⟩
  constructor
  . rw [haddress, hsource]
    rfl
  . intro _
    exact Or.inl hsource
  . intro _
    rw [hsource]
    nofun

/--
However often and over whatever memories things are looked up about a function that was read, its
source goes one way: from not looked up to found, missing or failed, and from failed to found. What
is found or missing stays, without any more reads.
-/
theorem source_one_way {m₀ : Memory} {version : Version} {a : Address} {f : LuaFunction}
    (hf : (read m₀.target version a).result m₀ = .ok f) (ls : List Lookup) :
    let g := f.after ls
    (∀ name, g.source.value? = some name ↔ g.source = .found name) ∧
    ((∃ name, g.source = .found name) ∧ f.header.source ≠ .null ∧
        g.sourceAddress = f.header.source ∨
      (∀ name, g.source ≠ .found name) ∧ g.sourceAddress = .null) ∧
    (if f.header.source = .null then g.source = .unread ∨ g.source = .missing
    else g.source ≠ .missing) ∧
    (∀ m more, ((g.located m).after more).source ≠ .unread) ∧
    (g.source.IsFinal → ∀ more, (g.after more).source = g.source ∧
      (g.after more).sourceAddress = g.sourceAddress ∧
      ∀ m, (readSource m.target (g.after more)).reads m = []) ∧
    (g.source = .failed → ∀ m, g.SourceReadable m → ∃ name, (g.located m).source = .found name) ∧
    ∀ m, ((readLocals m.target g).result m).source = g.source := by
  intro g
  have hknows : g.KnowsSource := (knowsSource_of_read hf).after ls
  have hheader : g.header = f.header := (precedes_after f ls).header
  clear_value g
  rw [← hheader]
  refine ⟨?_, ?_, ?_, ?_, ?_, ?_, ?_⟩
  . intro name
    cases g.source <;> simp [Fetched.value?]
  . exact hknows.sourceAddress_eq
  . split
    . next hnull => exact hknows.of_null hnull
    . next hne => exact hknows.of_ne_null hne
  . intro m more
    apply (precedes_after _ more).resolved
    exact (locates_located m g).source_ne_unread
  . intro hfinal more
    rcases (precedes_after g more).final hfinal with ⟨hsource, haddress⟩
    refine ⟨hsource, haddress, ?_⟩
    intro m
    rw [← hsource] at hfinal
    rw [readSource_of_isFinal hfinal]
    rfl
  . intro hfailed m hreadable
    exact hknows.exists_found_of_failed hfailed hreadable
  . intro m
    rw [result_readLocals]

def imageOfSource : Snapshot :=
  let bytes : List UInt8 := .replicate 118 0 ++ [0x10, 0x78] ++ .replicate 8 0 ++
    [0x44, 0, 0, 1] ++ .replicate 12 0 ++ [0x61]
  ⟨⟨.eight, .big⟩, [⟨⟨0x1000⟩, bytes.toArray⟩]⟩

theorem found_after_failure :
    let m := imageOfSource.memory
    let gone : Memory := ⟨m.target, fun _ _ => none⟩
    ∃ f, (read m.target .v54 ⟨0x1000⟩).result m = .ok f ∧
      (f.after [.source gone, .locals gone]).source = .failed ∧
      ∃ name, ((f.after [.source gone, .locals gone]).located m).source = .found name := by
  intro m gone
  let f : LuaFunction := ⟨.v54, ⟨0x1000⟩, ⟨0, false, 0, 0, 0, 0, 0, .null, ⟨0x1078⟩⟩, .unread, .null,
    0, 0, #[]⟩
  have hf : (read m.target .v54 ⟨0x1000⟩).result m = .ok f := by decide +kernel
  have hfailed : (f.after [.source gone, .locals gone]).source = .failed := by decide +kernel
  have hreadable : f.SourceReadable m := by
    have htag : m.byte? m.target (StringHeader.tagAt .eight ⟨0x1078⟩) = some 0x44 := by
      decide +kernel
    have hshort : m.read (StringHeader.shortAt .eight ⟨0x1078⟩) 1 = some [1] := by
      decide +kernel
    have hheader : (StringHeader.read m.target .v54 ⟨0x1078⟩ none).result m =
        some ⟨false, 1, ⟨0x1090⟩⟩ := by
      decide +kernel
    constructor
    . exact ⟨0x44, htag, Or.inl ⟨by decide, [1], hshort, rfl⟩⟩
    . intro h hh
      injection hheader.symm.trans hh with hh
      subst hh
      exact Or.inl (by decide +kernel)
  refine ⟨f, hf, hfailed, ?_⟩
  apply (source_one_way hf [.source gone, .locals gone]).2.2.2.2.2.1 hfailed
  apply (precedes_after f _).sourceReadable hreadable

end LuaFunction

end LuaScope
