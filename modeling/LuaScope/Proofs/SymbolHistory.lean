import Mathlib.Data.List.Dedup
import Mathlib.Data.List.Induction
import Mathlib.Data.List.TakeWhile
import LuaScope.Symbols

/-!
This module contains the proof that the symbols are a function of the operations on them. What is
known about a state of the runtime follows from the operations on this state since it was dropped
last, each with the memory as it was at that moment: functions stay as they were registered first,
and names, scripts and files are the ones that were given last.
-/

namespace LuaScope

namespace LuaFunction

variable (m : Memory) (f : LuaFunction)

def located : LuaFunction :=
  (readSource m.target f).result m

def completed : LuaFunction :=
  if (f.located m).startLine = 0 then (readLocals m.target (f.located m)).result m
  else f.located m

inductive WasRead : LuaFunction → Prop where
  | read {m : Memory} {version : Version} {address : Address} {f : LuaFunction} :
    (LuaFunction.read m.target version address).result m = .ok f → WasRead f
  | ofClosure {m : Memory} {version : Version} {closure : Address} {f : LuaFunction} :
    (LuaFunction.ofClosure m.target version closure).result m = .ok f → WasRead f
  | readSource {m : Memory} {f : LuaFunction} :
    WasRead f → WasRead ((LuaFunction.readSource m.target f).result m)
  | readLocals {m : Memory} {f : LuaFunction} :
    WasRead f → WasRead ((LuaFunction.readLocals m.target f).result m)

theorem exists_located : ∃ source address,
    f.located m = { f with source := source, sourceAddress := address } := by
  unfold located readSource
  cases f.source with
  | found name | missing => exact ⟨f.source, f.sourceAddress, rfl⟩
  | unread | failed =>
    dsimp only
    split
    . exact ⟨.missing, f.sourceAddress, rfl⟩
    . rw [Peek.result_bind]
      split
      . next name hname => exact ⟨.found name, f.header.source, rfl⟩
      . exact ⟨.failed, f.sourceAddress, rfl⟩

theorem exists_readLocals (t : Target) : ∃ startLine endLine locals,
    (readLocals t f).result m =
      { f with startLine := startLine, endLine := endLine, locals := locals } := by
  unfold readLocals
  dsimp only
  split
  . exact ⟨_, _, _, rfl⟩
  . rw [Peek.result_bind]
    exact ⟨_, _, _, rfl⟩

@[simp]
theorem address_located : (f.located m).address = f.address := by
  rcases exists_located m f with ⟨source, address, h⟩
  rw [h]

@[simp]
theorem address_readLocals (t : Target) : ((readLocals t f).result m).address = f.address := by
  rcases exists_readLocals m f t with ⟨startLine, endLine, locals, h⟩
  rw [h]

theorem address_completed : (f.completed m).address = f.address := by
  unfold completed
  split
  . rw [address_readLocals, address_located]
  . rw [address_located]

theorem exists_of_read {t : Target} {version : Version} {address : Address}
    (h : (read t version address).result m = .ok f) : address.isNull = false ∧
      ∃ header, f = ⟨version, address, header, .unread, .null, 0, 0, #[]⟩ := by
  unfold read at h
  split at h
  . contradiction
  . next hnull =>
    rw [Peek.result_bind] at h
    split at h
    . contradiction
    . next header hheader =>
      injection h with h
      rw [Bool.eq_false_iff]
      exact ⟨hnull, header, h.symm⟩

theorem address_of_read {t : Target} {version : Version} {address : Address}
    (h : (read t version address).result m = .ok f) : f.address = address := by
  rcases exists_of_read m f h with ⟨-, header, rfl⟩
  rfl

theorem isNull_of_read {t : Target} {version : Version} {address : Address}
    (h : (read t version address).result m = .ok f) : f.address.isNull = false := by
  rw [address_of_read m f h]
  exact (exists_of_read m f h).1

theorem unread_of_read {t : Target} {version : Version} {address : Address}
    (h : (read t version address).result m = .ok f) :
    f.source = .unread ∧ f.sourceAddress = .null ∧ f.startLine = 0 := by
  rcases exists_of_read m f h with ⟨-, header, rfl⟩
  exact ⟨rfl, rfl, rfl⟩

theorem WasRead.isNull_eq_false {f : LuaFunction} (h : f.WasRead) : f.address.isNull = false := by
  induction h with
  | read hread => exact isNull_of_read _ _ hread
  | ofClosure hread =>
    rw [LuaFunction.ofClosure, Peek.result_bind] at hread
    split at hread
    . contradiction
    . apply isNull_of_read _ _ hread
  | @readSource m f hf ih => exact (congrArg Address.isNull (address_located m f)).trans ih
  | readLocals hf ih =>
    rw [address_readLocals]
    exact ih

end LuaFunction

namespace StateSymbols

open LuaFunction

theorem result_register (m : Memory) (s : StateSymbols LuaFunction) {f : LuaFunction}
    (hf : f.address.isNull = false) :
    (s.register m.target f).result m =
      match (f.located m).source.value? with
      | none => .ok (s, false)
      | some name =>
        if (s.sourceFor name (f.located m)).functions.contains f.address then .ok (s, false)
        else .ok (s.insert (s.sourceFor name (f.located m)) (f.completed m), true) := by
  have haddress : Registrable.address f = f.address := rfl
  have hlocated : (Registrable.readSource m.target f).result m = f.located m := rfl
  have hsource : Registrable.source? (f.located m) = (f.located m).source.value? := rfl
  have haddress' : Registrable.address (f.located m) = f.address := address_located m f
  have hline : Registrable.startLine (f.located m) = (f.located m).startLine := rfl
  have hlocals : (Registrable.readLocals m.target (f.located m)).result m =
      (readLocals m.target (f.located m)).result m := rfl
  unfold register completed
  rw [haddress, hf]
  simp only [Bool.false_eq_true, if_false, Peek.result_bind, hlocated, hsource]
  cases (f.located m).source.value? with
  | none => rfl
  | some name =>
    simp only [haddress', hline]
    by_cases hheld : (s.sourceFor name (f.located m)).functions.contains f.address
    . simp only [hheld, if_true, openSource_of_contains hheld]
      split <;> rfl
    . simp only [hheld, Bool.false_eq_true, if_false, insert_openSource]
      by_cases hzero : (f.located m).startLine = 0
      . simp only [hzero, if_true, ← hlocals]
        split <;> simp [Peek.result, Peek.report]
      . simp only [hzero, if_false]
        split <;> rfl

end StateSymbols

namespace SymbolStore

variable (m : Memory) (s : SymbolStore LuaFunction) (v w : Address)

theorem state?_put (symbols : StateSymbols LuaFunction) :
    (s.put v symbols).state? w = if v = w then some symbols else s.state? w :=
  Table.find?_insert s.states v w symbols

theorem state?_track :
    ((s.track v).result m).state? w = if v = w then some (s.symbols v) else s.state? w := by
  unfold track symbols
  split
  . next hcontains =>
    rcases Option.isSome_iff_exists.mp hcontains with ⟨symbols, hsymbols⟩
    split
    . next heq =>
      subst heq
      show s.state? v = some ((s.state? v).getD .empty)
      rw [state?, hsymbols]
      rfl
    . rfl
  . next hcontains =>
    have hnone : s.state? v = none := by
      rw [Table.contains, Option.isSome_iff_ne_none, ne_eq, not_not] at hcontains
      exact hcontains
    rw [hnone]
    apply state?_put s v w .empty

theorem symbols_track : ((s.track v).result m).symbols v = s.symbols v := by
  rw [symbols, state?_track, if_pos rfl]
  rfl

theorem state?_put_track (symbols : StateSymbols LuaFunction) :
    (((s.track v).result m).put v symbols).state? w =
      if v = w then some symbols else s.state? w := by
  rw [state?_put]
  split
  . rfl
  . next hne => rw [state?_track, if_neg hne]

theorem state?_drop :
    ((s.drop v).result m).state? w = if v = w then none else s.state? w := by
  unfold drop
  split
  . next habsent =>
    split
    . next heq =>
      subst heq
      have hnone : s.states.find? v = none := by
        rw [Table.contains, Bool.not_eq_true', Option.isSome_eq_false_iff,
          Option.isNone_iff_eq_none] at habsent
        exact habsent
      exact hnone
    . rfl
  . apply Table.find?_erase s.states v w

end SymbolStore

inductive Operation where
  | fetch
  | drop
  | register (f : LuaFunction) (h : f.WasRead)
  | addName (address : Address) (name : String)
  | addScript (name content : String)
  | resolve (name file : String)

structure Event where
  state : Address
  memory : Memory
  operation : Operation

namespace Event

def apply (s : SymbolStore LuaFunction) (e : Event) : Peek (SymbolStore LuaFunction) := do
  match e.operation with
  | .drop => s.drop e.state
  | .fetch => s.track e.state
  | .register f _ =>
    let s ← s.track e.state
    match ← (s.symbols e.state).register e.memory.target f with
    | .ok (symbols, _) => return s.put e.state symbols
    | .error _ => return s
  | .addName address name =>
    let s ← s.track e.state
    return s.put e.state ((s.symbols e.state).addName address name)
  | .addScript name content =>
    let s ← s.track e.state
    return s.put e.state ((s.symbols e.state).addScript name content)
  | .resolve name file =>
    let s ← s.track e.state
    return s.put e.state ((s.symbols e.state).resolve name file).1

def change (s : StateSymbols LuaFunction) (e : Event) : StateSymbols LuaFunction :=
  match e.operation with
  | .fetch | .drop => s
  | .register f _ =>
    match (s.register e.memory.target f).result e.memory with
    | .ok (symbols, _) => symbols
    | .error _ => s
  | .addName address name => s.addName address name
  | .addScript name content => s.addScript name content
  | .resolve name file => (s.resolve name file).1

def replay (es : List Event) : SymbolStore LuaFunction :=
  es.foldl (fun s e => (e.apply s).result e.memory) .empty

def isDrop (e : Event) : Bool :=
  match e.operation with
  | .drop => true
  | _ => false

def recent (v : Address) (es : List Event) : List Event :=
  ((es.filter (·.state = v)).reverse.takeWhile (!·.isDrop)).reverse

def opens (name : String) (e : Event) : Option Address :=
  match e.operation with
  | .register f _ =>
    if (f.located e.memory).source.value? = some name then some (f.located e.memory).sourceAddress
    else none
  | _ => none

def adds (name : String) (address : Address) (e : Event) : Option LuaFunction :=
  match e.operation with
  | .register f _ =>
    if (f.located e.memory).source.value? = some name ∧ f.address = address then
      some (f.completed e.memory)
    else none
  | _ => none

def resolves (name : String) (e : Event) : Option String :=
  match e.operation with
  | .resolve source file => if source = name then some file else none
  | _ => none

def names (address : Address) (e : Event) : Option String :=
  match e.operation with
  | .addName a name => if a = address then some name else none
  | _ => none

def stores (name : String) (e : Event) : Option Script :=
  match e.operation with
  | .addScript script content => if script = name then some ⟨script, content, none⟩ else none
  | _ => none

def resolved (name : String) (es : List Event) : Option String :=
  (es.dropWhile fun e => (e.opens name).isNone).reverse.findSome? (resolves name)

theorem recent_append (v : Address) (es : List Event) (e : Event) :
    recent v (es ++ [e]) =
      if e.state = v then (if e.isDrop then [] else recent v es ++ [e]) else recent v es := by
  unfold recent
  rw [List.filter_append]
  by_cases hstate : e.state = v
  . by_cases hdrop : e.isDrop <;> simp [hstate, hdrop]
  . simp [hstate]

theorem result_apply (s : SymbolStore LuaFunction) (e : Event) :
    (e.apply s).result e.memory =
      match e.operation with
      | .fetch => (s.track e.state).result e.memory
      | .drop => (s.drop e.state).result e.memory
      | _ => ((s.track e.state).result e.memory).put e.state (e.change (s.symbols e.state)) := by
  rcases e with ⟨v, m, operation⟩
  have htrack := s.symbols_track m v
  cases operation with
  | fetch | drop => rfl
  | register f hf =>
    simp only [apply, change, Peek.result_bind, htrack]
    rw [StateSymbols.result_register m _ hf.isNull_eq_false]
    split
    . rfl
    -- a function that was read has an address, so that it is never turned down
    . next failure hfailure =>
      split at hfailure
      . contradiction
      . split at hfailure <;> contradiction
  | addName address name =>
    simp only [apply, change, Peek.result_bind, htrack]
    rfl
  | addScript name content =>
    simp only [apply, change, Peek.result_bind, htrack]
    rfl
  | resolve name file =>
    simp only [apply, change, Peek.result_bind, htrack]
    rfl

theorem state?_apply (s : SymbolStore LuaFunction) (e : Event) (v : Address) :
    ((e.apply s).result e.memory).state? v =
      if e.state = v then (if e.isDrop then none else some (e.change (s.symbols v)))
      else s.state? v := by
  rw [result_apply]
  rcases e with ⟨w, m, operation⟩
  cases operation with
  | fetch =>
    dsimp only [isDrop, change]
    rw [SymbolStore.state?_track]
    split
    . next heq =>
      rw [heq]
      rfl
    . rfl
  | drop =>
    dsimp only [isDrop]
    rw [SymbolStore.state?_drop]
    rfl
  | register | addName | addScript | resolve =>
    dsimp only [isDrop]
    rw [SymbolStore.state?_put_track]
    split
    . next heq =>
      rw [heq]
      rfl
    . rfl

theorem replay_append (es : List Event) (e : Event) :
    replay (es ++ [e]) = (e.apply (replay es)).result e.memory := by
  rw [replay, List.foldl_append]
  rfl

theorem state?_replay (es : List Event) (v : Address) :
    (replay es).state? v =
      if recent v es = [] then none else some ((recent v es).foldl change .empty) := by
  induction es using List.reverseRecOn with
  | nil => rfl
  | append_singleton es e ih =>
    rw [replay_append, state?_apply, recent_append]
    split
    . next hstate =>
      cases hdrop : e.isDrop with
      | true => rfl
      | false =>
        have hsymbols : (replay es).symbols v = (recent v es).foldl change .empty := by
          rw [SymbolStore.symbols, ih]
          split
          . next hnone =>
            rw [hnone]
            rfl
          . rfl
        rw [hsymbols]
        simp
    . exact ih

theorem findSome?_append_singleton {α : Type} (f : Event → Option α) (es : List Event) (e : Event) :
    (es ++ [e]).findSome? f = (es.findSome? f).or (f e) := by
  rw [List.findSome?_append]
  cases h : f e <;> simp [h]

theorem findSome?_reverse_append_singleton {α : Type} (f : Event → Option α) (es : List Event)
    (e : Event) : (es ++ [e]).reverse.findSome? f = (f e).or (es.reverse.findSome? f) := by
  rw [List.reverse_append, List.findSome?_append]
  cases h : f e <;> simp [h]

theorem adds_of_opens {name : String} {e : Event} (h : e.opens name = none) (a : Address) :
    e.adds name a = none := by
  unfold opens at h
  unfold adds
  cases hop : e.operation with
  | register f hf =>
    rw [hop] at h
    dsimp only at h ⊢
    split at h
    . contradiction
    . next hne => rw [if_neg (fun hboth => hne hboth.1)]
  | fetch | drop | addName | addScript | resolve => rfl

theorem resolves_of_opens {name : String} {e : Event} {object : Address}
    (h : e.opens name = some object) : e.resolves name = none := by
  unfold opens at h
  unfold resolves
  cases hop : e.operation with
  | resolve source file =>
    rw [hop] at h
    contradiction
  | fetch | drop | addName | addScript | register => rfl

theorem resolved_append (name : String) (es : List Event) (e : Event) :
    resolved name (es ++ [e]) =
      if (es.findSome? (opens name)).isSome then (e.resolves name).or (resolved name es)
      else none := by
  -- files count from where the source was opened, and an operation that opens it gives no file
  have hdrop : (es.findSome? (opens name)).isSome ↔
      es.dropWhile (fun e => (e.opens name).isNone) ≠ [] := by
    rw [ne_eq, List.dropWhile_eq_nil_iff, List.findSome?_isSome_iff]
    simp [Option.isSome_iff_ne_none]
  unfold resolved
  rw [List.dropWhile_append]
  split
  . next hempty =>
    rw [List.isEmpty_iff] at hempty
    rw [if_neg (by rw [hdrop]; simp [hempty])]
    cases hopens : e.opens name with
    | none => simp [hopens]
    | some object => simp [hopens, resolves_of_opens hopens]
  . next hsome =>
    rw [List.isEmpty_iff] at hsome
    rw [if_pos (hdrop.mpr hsome)]
    apply findSome?_reverse_append_singleton _ _ _

def Describes (es : List Event) (name : String) : Option (SourceSymbols LuaFunction) → Prop
  | none => es.findSome? (opens name) = none
  | some source =>
    source.name = name ∧ es.findSome? (opens name) = some source.address ∧
      resolved name es = source.resolved ∧
      ∀ a, es.findSome? (adds name a) = source.functions.find? a

theorem findSome?_adds_of_opens {es : List Event} {name : String}
    (h : es.findSome? (opens name) = none) (a : Address) : es.findSome? (adds name a) = none := by
  rw [List.findSome?_eq_none_iff] at h ⊢
  intro e he
  apply adds_of_opens (h e he) a

theorem resolved_of_opens {es : List Event} {name : String}
    (h : es.findSome? (opens name) = none) : resolved name es = none := by
  have hall : ∀ e ∈ es, (e.opens name).isNone := by
    rw [List.findSome?_eq_none_iff] at h
    intro e he
    rw [h e he]
    rfl
  rw [resolved, List.dropWhile_eq_nil_iff.mpr hall]
  rfl

theorem Describes.function {es : List Event} {name : String}
    {source : Option (SourceSymbols LuaFunction)} (h : Describes es name source) (a : Address) :
    source.bind (·.functions.find? a) = es.findSome? (adds name a) := by
  cases source with
  | none =>
    rw [findSome?_adds_of_opens h]
    rfl
  | some source =>
    rw [h.2.2.2]
    rfl

theorem Describes.address {es : List Event} {name : String}
    {source : Option (SourceSymbols LuaFunction)} (h : Describes es name source) :
    source.map (·.address) = es.findSome? (opens name) := by
  cases source with
  | none =>
    rw [show es.findSome? (opens name) = none from h]
    rfl
  | some source =>
    rw [h.2.1]
    rfl

theorem Describes.file {es : List Event} {name : String}
    {source : Option (SourceSymbols LuaFunction)} (h : Describes es name source) :
    source.bind (·.resolved) = resolved name es := by
  cases source with
  | none =>
    rw [resolved_of_opens h]
    rfl
  | some source =>
    rw [h.2.2.1]
    rfl

theorem Describes.append_other {es : List Event} {name : String}
    {source : Option (SourceSymbols LuaFunction)} (h : Describes es name source) {e : Event}
    (hopens : e.opens name = none) (hresolves : e.resolves name = none ∨ source = none) :
    Describes (es ++ [e]) name source := by
  cases source with
  | none =>
    unfold Describes at h ⊢
    rw [findSome?_append_singleton, h, hopens]
    rfl
  | some source =>
    rcases h with ⟨hname, hobject, hresolved, hfunctions⟩
    have hinert : e.resolves name = none := by
      cases hresolves with
      | inl h => exact h
      | inr h => contradiction
    refine ⟨hname, ?_, ?_, ?_⟩
    . rw [findSome?_append_singleton, hobject]
      rfl
    . rw [resolved_append, hobject, hinert]
      exact hresolved
    . intro a
      rw [findSome?_append_singleton, adds_of_opens hopens, Option.or_none]
      apply hfunctions a

theorem Describes.append_resolve {es : List Event} {name file : String}
    {source : SourceSymbols LuaFunction} (h : Describes es name (some source)) {e : Event}
    (hopens : e.opens name = none) (hresolves : e.resolves name = some file) :
    Describes (es ++ [e]) name (some { source with resolved := some file }) := by
  rcases h with ⟨hname, hobject, hresolved, hfunctions⟩
  refine ⟨hname, ?_, ?_, ?_⟩
  . rw [findSome?_append_singleton, hobject]
    rfl
  . rw [resolved_append, hobject, hresolves]
    rfl
  . intro a
    rw [findSome?_append_singleton, adds_of_opens hopens, Option.or_none]
    apply hfunctions a

structure Records (es : List Event) (s : StateSymbols LuaFunction) : Prop where
  sources : ∀ name, Describes es name (s.source? name)
  names : ∀ a, es.reverse.findSome? (Event.names a) = s.name? a
  scripts : ∀ name, es.reverse.findSome? (stores name) = s.script? name

section Register

variable {es : List Event} {name : String} {m : Memory} {f : LuaFunction} (v : Address)
  (hf : f.WasRead)

theorem opens_register (hsource : (f.located m).source.value? = some name) :
    (Event.mk v m (.register f hf)).opens name = some (f.located m).sourceAddress := by
  simp only [opens]
  rw [if_pos hsource]

theorem adds_register (hsource : (f.located m).source.value? = some name) (a : Address) :
    (Event.mk v m (.register f hf)).adds name a =
      if f.address = a then some (f.completed m) else none := by
  simp only [adds, hsource, true_and]

theorem Describes.append_first (h : Describes es name none)
    (hsource : (f.located m).source.value? = some name) :
    Describes (es ++ [⟨v, m, .register f hf⟩]) name
      (some ⟨name, (f.located m).sourceAddress, none,
        Table.empty.insert f.address (f.completed m)⟩) := by
  unfold Describes at h
  refine ⟨rfl, ?_, ?_, ?_⟩
  . rw [findSome?_append_singleton, h, opens_register v hf hsource]
    rfl
  . rw [resolved_append, h]
    rfl
  . intro a
    rw [findSome?_append_singleton, findSome?_adds_of_opens h, adds_register v hf hsource,
      Table.find?_insert]
    rfl

theorem Describes.append_further {source : SourceSymbols LuaFunction}
    (h : Describes es name (some source)) (hsource : (f.located m).source.value? = some name) :
    Describes (es ++ [⟨v, m, .register f hf⟩]) name
      (some (if source.functions.contains f.address then source
        else { source with functions := source.functions.insert f.address (f.completed m) })) := by
  rcases h with ⟨hname, hobject, hresolved, hfunctions⟩
  have hopens := opens_register v hf hsource
  have hobject' : (es ++ [Event.mk v m (.register f hf)]).findSome? (opens name) =
      some source.address := by
    rw [findSome?_append_singleton, hobject]
    rfl
  have hresolved' : resolved name (es ++ [Event.mk v m (.register f hf)]) = source.resolved := by
    rw [resolved_append, hobject, resolves_of_opens hopens]
    exact hresolved
  split
  . next hheld =>
    refine ⟨hname, hobject', hresolved', ?_⟩
    intro a
    rw [findSome?_append_singleton, hfunctions, adds_register v hf hsource]
    split
    . next heq =>
      subst heq
      rcases Option.isSome_iff_exists.mp hheld with ⟨g, hg⟩
      rw [hg]
      rfl
    . apply Option.or_none
  . next hfree =>
    refine ⟨hname, hobject', hresolved', ?_⟩
    intro a
    rw [findSome?_append_singleton, hfunctions, adds_register v hf hsource, Table.find?_insert]
    split
    . next heq =>
      subst heq
      rw [Table.contains, Option.not_isSome_iff_eq_none] at hfree
      rw [hfree]
      rfl
    . apply Option.or_none

end Register

theorem change_register (s : StateSymbols LuaFunction) (v : Address) (m : Memory)
    (f : LuaFunction) (hf : f.WasRead) :
    (Event.mk v m (.register f hf)).change s =
      match (f.located m).source.value? with
      | none => s
      | some name =>
        if (s.sourceFor name (f.located m)).functions.contains f.address then s
        else s.insert (s.sourceFor name (f.located m)) (f.completed m) := by
  dsimp only [change]
  rw [StateSymbols.result_register m s hf.isNull_eq_false]
  cases (f.located m).source.value? with
  | none => rfl
  | some name =>
    dsimp only
    split
    . next heq =>
      split at heq
      . injection heq with heq
        injection heq with heq
        rw [if_pos (by assumption), heq]
      . injection heq with heq
        injection heq with heq
        rw [if_neg (by assumption), heq]
    . next heq => split at heq <;> contradiction

theorem names_register (s : StateSymbols LuaFunction) (v : Address) (m : Memory)
    (f : LuaFunction) (hf : f.WasRead) :
    ((Event.mk v m (.register f hf)).change s).names = s.names ∧
      ((Event.mk v m (.register f hf)).change s).scripts = s.scripts := by
  rw [change_register]
  split
  . exact ⟨rfl, rfl⟩
  . split <;> exact ⟨rfl, rfl⟩

theorem Records.of_sources {es : List Event} {s s' : StateSymbols LuaFunction} (h : Records es s)
    {e : Event} (hnames : ∀ a, e.names a = none) (hscripts : ∀ name, e.stores name = none)
    (hs : s'.names = s.names ∧ s'.scripts = s.scripts)
    (hsources : ∀ name, Describes (es ++ [e]) name (s'.source? name)) :
    Records (es ++ [e]) s' := by
  constructor
  . exact hsources
  . intro a
    rw [findSome?_reverse_append_singleton, hnames, StateSymbols.name?, hs.1]
    apply h.names a
  . intro name
    rw [findSome?_reverse_append_singleton, hscripts, StateSymbols.script?, hs.2]
    apply h.scripts name

theorem Records.describes_insert {es : List Event} {s : StateSymbols LuaFunction}
    (h : Records es s) {e : Event} {name : String} {source : SourceSymbols LuaFunction}
    (hsource : Describes (es ++ [e]) name (some source))
    (hothers : ∀ other, name ≠ other → e.opens other = none ∧ e.resolves other = none)
    (other : String) :
    Describes (es ++ [e]) other ((s.sources.insert name source).find? other) := by
  rw [Table.find?_insert]
  split
  . next heq =>
    subst heq
    exact hsource
  . next hne =>
    rcases hothers other hne with ⟨hopens, hresolves⟩
    apply (h.sources other).append_other hopens (Or.inl hresolves)

theorem Records.describes_register {es : List Event} {s : StateSymbols LuaFunction}
    (h : Records es s) (v : Address) (m : Memory) (f : LuaFunction) (hf : f.WasRead)
    (other : String) :
    Describes (es ++ [⟨v, m, .register f hf⟩]) other
      (((Event.mk v m (.register f hf)).change s).source? other) := by
  rw [Event.change_register]
  cases hsource : (f.located m).source.value? with
  | none =>
    have hopens : (Event.mk v m (.register f hf)).opens other = none := by
      simp [opens, hsource]
    apply (h.sources other).append_other hopens
    exact Or.inl rfl
  | some name =>
    have hothers (other : String) (hne : name ≠ other) :
        (Event.mk v m (.register f hf)).opens other = none ∧
          (Event.mk v m (.register f hf)).resolves other = none := by
      simp [opens, resolves, hsource, hne]
    have hdescribes := h.sources name
    have haddress : Registrable.address (f.completed m) = f.address := f.address_completed m
    dsimp only
    cases hs : s.source? name with
    | none =>
      rw [hs] at hdescribes
      have hfirst := hdescribes.append_first v hf hsource
      have hfor : s.sourceFor name (f.located m) =
          ⟨name, (f.located m).sourceAddress, none, .empty⟩ := by
        rw [StateSymbols.sourceFor, hs]
        rfl
      rw [hfor, if_neg (by simp [Table.contains]), StateSymbols.insert, haddress]
      apply h.describes_insert hfirst hothers
    | some source =>
      rw [hs] at hdescribes
      have hname := hdescribes.1
      subst hname
      have hfurther := hdescribes.append_further v hf hsource
      have hfor : s.sourceFor source.name (f.located m) = source := by
        rw [StateSymbols.sourceFor, hs]
        rfl
      rw [hfor]
      split
      . next hheld =>
        rw [if_pos hheld] at hfurther
        -- the source that is described anew is the one that was there
        by_cases hother : source.name = other
        . rw [← hother, hs]
          exact hfurther
        . rcases hothers other hother with ⟨hopens, hresolves⟩
          apply (h.sources other).append_other hopens
          exact Or.inl hresolves
      . next hfree =>
        rw [if_neg hfree] at hfurther
        rw [StateSymbols.insert, haddress]
        apply h.describes_insert hfurther hothers

theorem Records.describes_resolve {es : List Event} {s : StateSymbols LuaFunction}
    (h : Records es s) (v : Address) (m : Memory) (name file other : String) :
    Describes (es ++ [⟨v, m, .resolve name file⟩]) other
      ((s.resolve name file).1.source? other) := by
  have hdescribes := h.sources name
  unfold StateSymbols.resolve
  cases hs : s.source? name with
  | none =>
    -- a file for a source that does not exist is lost
    by_cases hname : name = other
    . subst hname
      apply hdescribes.append_other rfl
      exact Or.inr hs
    . apply (h.sources other).append_other rfl
      exact Or.inl (if_neg hname)
  | some source =>
    rw [hs] at hdescribes
    have hresolves : (Event.mk v m (.resolve name file)).resolves name = some file := if_pos rfl
    apply h.describes_insert (hdescribes.append_resolve rfl hresolves)
    intro other hne
    exact ⟨rfl, if_neg hne⟩

theorem Records.change {es : List Event} {s : StateSymbols LuaFunction} (h : Records es s)
    (e : Event) : Records (es ++ [e]) (e.change s) := by
  rcases e with ⟨v, m, operation⟩
  cases operation with
  | fetch | drop =>
    apply h.of_sources
    . intro a
      rfl
    . intro name
      rfl
    . exact ⟨rfl, rfl⟩
    . intro name
      apply (h.sources name).append_other rfl
      exact Or.inl rfl
  | register f hf =>
    apply h.of_sources
    . intro a
      rfl
    . intro name
      rfl
    . apply names_register
    . apply h.describes_register
  | resolve name file =>
    apply h.of_sources
    . intro a
      rfl
    . intro name
      rfl
    . simp only [Event.change, StateSymbols.resolve]
      split <;> exact ⟨rfl, rfl⟩
    . apply h.describes_resolve
  | addName address name =>
    constructor
    . intro name
      apply (h.sources name).append_other rfl
      exact Or.inl rfl
    . intro a
      rw [findSome?_reverse_append_singleton, h.names]
      show (if address = a then some name else none).or (s.names.find? a) =
        (s.names.insert address name).find? a
      rw [Table.find?_insert]
      split <;> rfl
    . intro name
      rw [findSome?_reverse_append_singleton]
      apply h.scripts
  | addScript script content =>
    constructor
    . intro name
      apply (h.sources name).append_other rfl
      exact Or.inl rfl
    . intro a
      rw [findSome?_reverse_append_singleton]
      apply h.names
    . intro name
      rw [findSome?_reverse_append_singleton, h.scripts]
      show (if script = name then some (Script.mk script content none) else none).or
        (s.scripts.find? name) = (s.scripts.insert script ⟨script, content, none⟩).find? name
      rw [Table.find?_insert]
      split <;> rfl

theorem records_foldl (es : List Event) : Records es (es.foldl Event.change .empty) := by
  induction es using List.reverseRecOn with
  | nil =>
    constructor
    . intro name
      rfl
    . intro a
      rfl
    . intro name
      rfl
  | append_singleton es e ih =>
    rw [List.foldl_append]
    apply ih.change e

theorem symbols_replay (es : List Event) (v : Address) :
    (replay es).symbols v = (recent v es).foldl change .empty := by
  rw [SymbolStore.symbols, state?_replay]
  split
  . next hnone =>
    rw [hnone]
    rfl
  . rfl

theorem mem_states_of_recent {es : List Event} {v : Address} (h : recent v es ≠ []) :
    v ∈ es.map state := by
  unfold recent at h
  rw [ne_eq, List.reverse_eq_nil_iff] at h
  rcases List.exists_mem_of_ne_nil _ h with ⟨e, he⟩
  have hmem := List.mem_reverse.mp (List.takeWhile_subset _ he)
  rw [List.mem_filter, decide_eq_true_eq] at hmem
  rw [List.mem_map]
  exact ⟨e, hmem⟩

theorem size_replay (es : List Event) :
    (replay es).size = ((es.map state).dedup.filter fun v => recent v es ≠ []).length := by
  -- neither list repeats a state, so it is enough that they have the same ones
  have hkeys : ((replay es).states.entries.map Prod.fst).Perm
      ((es.map state).dedup.filter fun v => recent v es ≠ []) := by
    rw [List.perm_ext_iff_of_nodup (replay es).states.nodup ((List.nodup_dedup _).filter _)]
    intro v
    have hstate : ((replay es).state? v).isSome ↔ recent v es ≠ [] := by
      rw [state?_replay]
      split <;> simp_all
    rw [← Table.lookup_isSome_iff, List.mem_filter, List.mem_dedup, decide_eq_true_eq]
    constructor
    . intro h
      have hrecent := hstate.mp h
      exact ⟨mem_states_of_recent hrecent, hrecent⟩
    . intro h
      apply hstate.mpr h.2
  rw [SymbolStore.size, Table.size, ← hkeys.length_eq, List.length_map]

theorem symbols_of_history (es : List Event) :
    (replay es).size = ((es.map state).dedup.filter fun v => recent v es ≠ []).length ∧
    ∀ v, (((replay es).state? v).isSome ↔ recent v es ≠ []) ∧
      (∀ name a, (((replay es).symbols v).source? name).bind (·.functions.find? a) =
        (recent v es).findSome? (adds name a)) ∧
      (∀ name, (((replay es).symbols v).source? name).map (·.address) =
        (recent v es).findSome? (opens name)) ∧
      (∀ name, (((replay es).symbols v).source? name).bind (·.resolved) =
        resolved name (recent v es)) ∧
      (∀ a, ((replay es).symbols v).name? a = (recent v es).reverse.findSome? (names a)) ∧
      ∀ name, ((replay es).symbols v).script? name =
        (recent v es).reverse.findSome? (stores name) := by
  refine ⟨size_replay es, ?_⟩
  intro v
  have hrecords := records_foldl (recent v es)
  rw [← symbols_replay] at hrecords
  refine ⟨?_, ?_, ?_, ?_, ?_, ?_⟩
  . rw [state?_replay]
    split <;> simp_all
  . intro name a
    apply (hrecords.sources name).function
  . intro name
    apply (hrecords.sources name).address
  . intro name
    apply (hrecords.sources name).file
  . intro a
    rw [hrecords.names]
  . intro name
    rw [hrecords.scripts]

end Event

end LuaScope
