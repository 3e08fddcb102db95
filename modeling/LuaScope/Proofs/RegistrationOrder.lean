import LuaScope.Proofs.Registration
import LuaScope.Proofs.SourceLookup

/-!
This module contains the proof that functions that were read from one memory can be registered in any
order. The first one at an address is kept, but any other one at this address would be the same. Only
the object that a source is begun with depends on the order.
-/

namespace LuaScope

namespace Table

variable {κ ν α : Type} [DecidableEq κ] {t u : Table κ ν} {g : ν → α}

theorem mem_map_entries {k : κ} {x : α} :
    (k, x) ∈ t.entries.map (Prod.map id g) ↔ (t.find? k).map g = some x := by
  rw [List.mem_map, Option.map_eq_some_iff]
  constructor
  . rintro ⟨⟨l, v⟩, hmem, heq⟩
    injection heq with hkey hvalue
    subst hkey
    exact ⟨v, find?_eq_some_iff.mpr hmem, hvalue⟩
  . rintro ⟨v, hfind, rfl⟩
    exact ⟨(k, v), find?_eq_some_iff.mp hfind, rfl⟩

theorem perm_of_find? (h : ∀ k, (t.find? k).map g = (u.find? k).map g) :
    (t.entries.map (Prod.map id g)).Perm (u.entries.map (Prod.map id g)) := by
  have hnodup (t : Table κ ν) : (t.entries.map (Prod.map id g)).Nodup := by
    apply List.Nodup.of_map Prod.fst
    rw [List.map_map]
    exact t.nodup
  rw [List.perm_ext_iff_of_nodup (hnodup t) (hnodup u)]
  rintro ⟨k, x⟩
  rw [mem_map_entries, mem_map_entries, h]

theorem size_eq_of_find? (h : ∀ k, (t.find? k).map g = (u.find? k).map g) : t.size = u.size := by
  have hlength := (perm_of_find? h).length_eq
  rw [List.length_map, List.length_map] at hlength
  exact hlength

theorem sum_values_eq_of_find? {g : ν → Nat} (h : ∀ k, (t.find? k).map g = (u.find? k).map g) :
    (t.values.map g).sum = (u.values.map g).sum := by
  have hsum := ((perm_of_find? h).map Prod.snd).sum_nat
  rw [List.map_map, List.map_map] at hsum
  rw [values, values, List.map_map, List.map_map]
  exact hsum

end Table

structure SourceSymbols.Alike (x y : SourceSymbols LuaFunction) : Prop where
  name : x.name = y.name
  resolved : x.resolved = y.resolved
  function : ∀ a, x.functions.find? a = y.functions.find? a
  functionCount : x.functions.size = y.functions.size

namespace StateSymbols

structure Alike (s s' : StateSymbols LuaFunction) : Prop where
  sources : ∀ name, Option.Rel SourceSymbols.Alike (s.source? name) (s'.source? name)
  sourceCount : s.sources.size = s'.sources.size
  functionCount : s.functionCount = s'.functionCount
  names : s.names = s'.names
  scripts : s.scripts = s'.scripts

def registerAll (m : Memory) (s : StateSymbols LuaFunction) :
    List LuaFunction → Except Misuse (StateSymbols LuaFunction × Nat)
  | [] => .ok (s, 0)
  | f :: fs => do
    let (s', added) ← (s.register m.target f).result m
    let (s'', count) ← registerAll m s' fs
    return (s'', (if added then 1 else 0) + count)

variable {s s' : StateSymbols LuaFunction}

theorem Alike.of_sources
    (hsources : ∀ name, Option.Rel SourceSymbols.Alike (s.source? name) (s'.source? name))
    (hnames : s.names = s'.names) (hscripts : s.scripts = s'.scripts) : s.Alike s' := by
  have hsize (name : String) :
      (s.source? name).map (·.functions.size) = (s'.source? name).map (·.functions.size) := by
    have hsource := hsources name
    generalize s.source? name = x, s'.source? name = y at hsource
    cases hsource with
    | none => rfl
    | some halike => exact congrArg some halike.functionCount
  exact ⟨hsources, Table.size_eq_of_find? hsize, Table.sum_values_eq_of_find? hsize, hnames,
    hscripts⟩

end StateSymbols

namespace LuaFunction

def IsFresh (m : Memory) (version : Version) (f : LuaFunction) : Prop :=
  ∃ address, (read m.target version address).result m = .ok f

variable {m : Memory} {version : Version} {f g : LuaFunction}

theorem IsFresh.wasRead (h : f.IsFresh m version) : f.WasRead := by
  rcases h with ⟨address, hread⟩
  exact .read hread

theorem IsFresh.eq_of_address (hf : f.IsFresh m version) (hg : g.IsFresh m version)
    (h : f.address = g.address) : f = g := by
  rcases hf with ⟨a, hf⟩
  rcases hg with ⟨b, hg⟩
  rw [address_of_read m f hf, address_of_read m g hg] at h
  subst h
  rw [hf] at hg
  injection hg

theorem IsFresh.sourceAddress_located (hf : f.IsFresh m version) {name : String}
    (h : (f.located m).source.value? = some name) :
    (f.located m).sourceAddress = f.header.source := by
  rcases hf with ⟨address, hread⟩
  have hlocates := locates_located m f
  have hknows := (knowsSource_of_read hread).of_locates hlocates
  rw [hknows.address, h, hlocates.precedes.header]
  rfl

end LuaFunction

namespace Event

open LuaFunction StateSymbols

section Order

variable {α : Type} {es rs ss : List Event} {p : Event → Option α}

theorem isSome_findSome?_of_perm (h : rs.Perm ss) :
    (rs.findSome? p).isSome ↔ (ss.findSome? p).isSome := by
  simp only [List.findSome?_isSome_iff, h.mem_iff]

theorem findSome?_of_perm (h : rs.Perm ss)
    (hagree : ∀ d ∈ rs, ∀ e ∈ rs, ∀ x y, p d = some x → p e = some y → x = y) :
    (es ++ rs).findSome? p = (es ++ ss).findSome? p := by
  have hrest : rs.findSome? p = ss.findSome? p := by
    have hsome := isSome_findSome?_of_perm (p := p) h
    cases hrs : rs.findSome? p with
    | none =>
      rw [hrs] at hsome
      symm
      rw [← Option.not_isSome_iff_eq_none, ← hsome]
      exact Bool.false_ne_true
    | some x =>
      rw [hrs] at hsome
      rcases Option.isSome_iff_exists.mp (hsome.mp rfl) with ⟨y, hss⟩
      rcases List.exists_of_findSome?_eq_some hrs with ⟨d, hd, hx⟩
      rcases List.exists_of_findSome?_eq_some hss with ⟨e, he, hy⟩
      rw [hss, hagree d hd e (h.mem_iff.mpr he) x y hx hy]
  rw [List.findSome?_append, List.findSome?_append, hrest]

theorem resolved_append_of_inert {name : String} (h : ∀ e ∈ rs, e.resolves name = none) :
    resolved name (es ++ rs) = resolved name es := by
  induction rs using List.reverseRecOn with
  | nil => rw [List.append_nil]
  | append_singleton rs e ih =>
    rw [List.forall_mem_append] at h
    rw [← List.append_assoc, resolved_append]
    split
    . rw [h.2 e (List.mem_singleton_self e), Option.none_or, ih h.1]
    . next hopens =>
      rw [Option.not_isSome_iff_eq_none] at hopens
      rw [← ih h.1, resolved_of_opens hopens]

end Order

def registrations (v : Address) (m : Memory) (fs : List LuaFunction) (hfs : ∀ f ∈ fs, f.WasRead) :
    List Event :=
  fs.pmap (fun f hf => ⟨v, m, .register f hf⟩) hfs

variable {v : Address} {m : Memory} {version : Version} {fs gs : List LuaFunction}

theorem forall_mem_registrations {hfs : ∀ f ∈ fs, f.WasRead} {motive : Event → Prop}
    (h : ∀ f (hf : f ∈ fs), motive ⟨v, m, .register f (hfs f hf)⟩) :
    ∀ e ∈ registrations v m fs hfs, motive e := by
  intro e he
  rcases List.mem_pmap.mp he with ⟨f, hf, rfl⟩
  exact h f hf

theorem registerAll_eq (s : StateSymbols LuaFunction) (v : Address) (hfs : ∀ f ∈ fs, f.WasRead) :
    s.registerAll m fs = .ok ((registrations v m fs hfs).foldl change s,
      additions s (registrations v m fs hfs)) := by
  induction fs generalizing s with
  | nil => rfl
  | cons f fs ih =>
    rw [List.forall_mem_cons] at hfs
    have hresult : ∃ s' added, (s.register m.target f).result m = .ok (s', added) := by
      rw [result_register m s hfs.1.isNull_eq_false]
      split
      . exact ⟨_, _, rfl⟩
      . split <;> exact ⟨_, _, rfl⟩
    rcases hresult with ⟨s', added, hresult⟩
    rcases change_of_result (v := v) hfs.1 hresult with ⟨hchange, hadded⟩
    unfold registerAll registrations
    rw [hresult, List.pmap_cons, List.foldl_cons, additions, hchange, hadded]
    show (registerAll m s' fs >>= _) = _
    rw [ih s' hfs.2]
    rfl

theorem names_registrations (s : StateSymbols LuaFunction) (hfs : ∀ f ∈ fs, f.WasRead) :
    ((registrations v m fs hfs).foldl change s).names = s.names ∧
      ((registrations v m fs hfs).foldl change s).scripts = s.scripts := by
  induction fs generalizing s with
  | nil => exact ⟨rfl, rfl⟩
  | cons f fs ih =>
    rw [List.forall_mem_cons] at hfs
    rcases names_register s v m f hfs.1 with ⟨hnames, hscripts⟩
    rw [← hnames, ← hscripts]
    apply ih _ hfs.2

theorem adds_eq_some {f : LuaFunction} {hf : f.WasRead} {name : String} {a : Address}
    {x : LuaFunction} (h : (Event.mk v m (.register f hf)).adds name a = some x) :
    f.address = a ∧ f.completed m = x := by
  unfold adds at h
  dsimp only at h
  split at h
  . next hboth =>
    injection h with h
    exact ⟨hboth.2, h⟩
  . contradiction

theorem opens_eq_some {f : LuaFunction} {hf : f.WasRead} {name : String} {object : Address}
    (h : (Event.mk v m (.register f hf)).opens name = some object) :
    (f.located m).source.value? = some name ∧ (f.located m).sourceAddress = object := by
  unfold opens at h
  dsimp only at h
  split at h
  . next hsource =>
    injection h with h
    exact ⟨hsource, h⟩
  . contradiction

theorem Describes.alike {es ds : List Event} {name : String}
    {x y : Option (SourceSymbols LuaFunction)} (hx : Describes es name x) (hy : Describes ds name y)
    (hopens : (es.findSome? (opens name)).isSome ↔ (ds.findSome? (opens name)).isSome)
    (hresolved : resolved name es = resolved name ds)
    (hadds : ∀ a, es.findSome? (adds name a) = ds.findSome? (adds name a)) :
    Option.Rel SourceSymbols.Alike x y := by
  cases x with
  | none =>
    cases y with
    | none => exact .none
    | some y =>
      rw [show es.findSome? (opens name) = none from hx, hy.2.1] at hopens
      simp at hopens
  | some x =>
    cases y with
    | none =>
      rw [show ds.findSome? (opens name) = none from hy, hx.2.1] at hopens
      simp at hopens
    | some y =>
      rcases hx with ⟨hname, -, hfile, hfunctions⟩
      rcases hy with ⟨hname', -, hfile', hfunctions'⟩
      have hfind (a : Address) : x.functions.find? a = y.functions.find? a := by
        rw [← hfunctions, ← hfunctions', hadds]
      refine .some ⟨?_, ?_, hfind, ?_⟩
      . rw [hname, hname']
      . rw [← hfile, ← hfile', hresolved]
      . apply Table.size_eq_of_find? (g := id)
        intro a
        rw [hfind]

theorem alike_registrations (es : List Event) (hperm : fs.Perm gs)
    (hfs : ∀ f ∈ fs, f.IsFresh m version) (hread : ∀ f ∈ fs, f.WasRead)
    (hread' : ∀ g ∈ gs, g.WasRead) :
    ((es ++ registrations v m fs hread).foldl change .empty).Alike
      ((es ++ registrations v m gs hread').foldl change .empty) := by
  have hevents : (registrations v m fs hread).Perm (registrations v m gs hread') :=
    hperm.pmap _
  apply Alike.of_sources
  . intro name
    apply ((records_foldl _).sources name).alike ((records_foldl _).sources name)
    . exact isSome_findSome?_of_perm (hevents.append_left _)
    . rw [resolved_append_of_inert, resolved_append_of_inert]
      . apply forall_mem_registrations
        intros
        rfl
      . apply forall_mem_registrations
        intros
        rfl
    . intro a
      apply findSome?_of_perm hevents
      apply forall_mem_registrations
      intro f hf
      apply forall_mem_registrations
      intro g hg x y hx hy
      rcases adds_eq_some hx with ⟨hfa, hfx⟩
      rcases adds_eq_some hy with ⟨hga, hgy⟩
      rw [← hfx, ← hgy, (hfs f hf).eq_of_address (hfs g hg) (hfa.trans hga.symm)]
  . rw [List.foldl_append, List.foldl_append, (names_registrations _ hread).1,
      (names_registrations _ hread').1]
  . rw [List.foldl_append, List.foldl_append, (names_registrations _ hread).2,
      (names_registrations _ hread').2]

theorem address_registrations (es : List Event) (hperm : fs.Perm gs)
    (hfs : ∀ f ∈ fs, f.IsFresh m version) (hread : ∀ f ∈ fs, f.WasRead)
    (hread' : ∀ g ∈ gs, g.WasRead) (name : String)
    (h : (es.findSome? (opens name)).isSome ∨ ∀ f ∈ fs, ∀ g ∈ fs,
      (f.located m).source.value? = some name → (g.located m).source.value? = some name →
        f.header.source = g.header.source) :
    (es ++ registrations v m fs hread).findSome? (opens name) =
      (es ++ registrations v m gs hread').findSome? (opens name) := by
  rcases h with hknown | hshared
  . rcases Option.isSome_iff_exists.mp hknown with ⟨object, hobject⟩
    rw [List.findSome?_append, List.findSome?_append, hobject]
    rfl
  . apply findSome?_of_perm (hperm.pmap _)
    apply forall_mem_registrations
    intro f hf
    apply forall_mem_registrations
    intro g hg x y hx hy
    rcases opens_eq_some hx with ⟨hfsource, hfx⟩
    rcases opens_eq_some hy with ⟨hgsource, hgy⟩
    rw [← hfx, ← hgy, (hfs f hf).sourceAddress_located hfsource,
      (hfs g hg).sourceAddress_located hgsource]
    exact hshared f hf g hg hfsource hgsource

/--
Functions that were read from one memory can be registered in any order, whatever is known already.
The same number of them is added, and the symbols that result differ at most in the objects of the
sources that they begin. The object of a source is the same one if the source was known before or if
all functions from it refer to one object.
-/
theorem registerAll_of_perm (es : List Event) (v : Address) (hperm : fs.Perm gs)
    (hfs : ∀ f ∈ fs, f.IsFresh m version) :
    let s := (replay es).symbols v
    ∃ s₁ s₂ count, s.registerAll m fs = .ok (s₁, count) ∧ s.registerAll m gs = .ok (s₂, count) ∧
      s₁.Alike s₂ ∧
      ∀ name, ((s.source? name).isSome ∨ ∀ f ∈ fs, ∀ g ∈ fs,
          (f.located m).source = .found name → (g.located m).source = .found name →
            f.header.source = g.header.source) →
        (s₁.source? name).map (·.address) = (s₂.source? name).map (·.address) := by
  intro s
  have hread : ∀ f ∈ fs, f.WasRead := fun f hf => (hfs f hf).wasRead
  have hread' : ∀ g ∈ gs, g.WasRead := fun g hg => hread g (hperm.mem_iff.mpr hg)
  have hs : s = (recent v es).foldl change .empty := symbols_replay es v
  have halike := alike_registrations (v := v) (recent v es) hperm hfs hread hread'
  have haddress := address_registrations (v := v) (recent v es) hperm hfs hread hread'
  have hkept : s.IsKept := by
    rw [hs]
    exact (isKept_foldl isKept_empty _).1
  -- the counts are told from the symbols, which hold as many functions in either case
  have hcount : additions s (registrations v m fs hread) =
      additions s (registrations v m gs hread') := by
    have htotal := halike.functionCount
    rw [List.foldl_append, List.foldl_append, ← hs, (isKept_foldl hkept _).2,
      (isKept_foldl hkept _).2] at htotal
    exact Nat.add_left_cancel htotal
  refine ⟨(registrations v m fs hread).foldl change s, (registrations v m gs hread').foldl change s,
    additions s (registrations v m fs hread), registerAll_eq s v hread, ?_, ?_, ?_⟩
  . rw [registerAll_eq s v hread', hcount]
  . rw [hs, ← List.foldl_append, ← List.foldl_append]
    exact halike
  . intro name h
    rw [hs, ← List.foldl_append, ← List.foldl_append, ((records_foldl _).sources name).address,
      ((records_foldl _).sources name).address]
    apply haddress name
    rcases h with hknown | hshared
    . left
      rw [← ((records_foldl _).sources name).address, ← hs, Option.isSome_map]
      exact hknown
    . right
      intro f hf g hg hfsource hgsource
      rw [Fetched.value?_eq_some_iff] at hfsource hgsource
      exact hshared f hf g hg hfsource hgsource

theorem registerAll_of_two_objects :
    let m := (imageOfTwo 0x61 0x61).memory
    let f := emptyFunction ⟨0x1000⟩ ⟨0x1090⟩
    let g := emptyFunction ⟨0x1048⟩ ⟨0x10A8⟩
    let s := (replay []).symbols ⟨1⟩
    [f, g, f].Perm [g, f, f] ∧ (∀ h ∈ [f, g, f], h.IsFresh m .v51) ∧
    ∃ s₁ s₂, s.registerAll m [f, g, f] = .ok (s₁, 2) ∧ s.registerAll m [g, f, f] = .ok (s₂, 2) ∧
      s₁.Alike s₂ ∧ (s₁.source? "a").map (·.address) = some ⟨0x1090⟩ ∧
      (s₂.source? "a").map (·.address) = some ⟨0x10A8⟩ := by
  intro m f g s
  have hperm : [f, g, f].Perm [g, f, f] := .swap g f [f]
  have hf : f.IsFresh m .v51 := ⟨⟨0x1000⟩, by decide +kernel⟩
  have hg : g.IsFresh m .v51 := ⟨⟨0x1048⟩, by decide +kernel⟩
  have hfs : ∀ h ∈ [f, g, f], h.IsFresh m .v51 := by
    simp only [List.forall_mem_cons]
    exact ⟨hf, hg, hf, List.forall_mem_nil _⟩
  have hfirst : (s.registerAll m [f, g, f]).toOption.map
      (fun (s', count) => (count, (s'.source? "a").map (·.address))) = some (2, some ⟨0x1090⟩) := by
    decide +kernel
  have hsecond : (s.registerAll m [g, f, f]).toOption.map
      (fun (s', count) => (count, (s'.source? "a").map (·.address))) = some (2, some ⟨0x10A8⟩) := by
    decide +kernel
  rcases registerAll_of_perm [] ⟨1⟩ hperm hfs with ⟨s₁, s₂, count, hall, hall', halike, -⟩
  rw [hall] at hfirst
  rw [hall'] at hsecond
  injection hfirst with hfirst
  injection hsecond with hsecond
  injection hfirst with hcount haddress
  injection hsecond with _ haddress'
  subst hcount
  exact ⟨hperm, hfs, s₁, s₂, hall, hall', halike, haddress, haddress'⟩

end Event

end LuaScope
