import LuaScope.Proofs.SourceName

/-!
This module contains the proof that registering a function does all that it is to do or nothing. A
function that is not added leaves the symbols as they were. One that is added is all that changes,
apart from its source, which begins together with its first function.
-/

namespace LuaScope

namespace Table

variable {κ ν : Type} [DecidableEq κ]

theorem sum_assign (g : ν → Nat) (k : κ) (v : ν) (es : List (κ × ν)) :
    ((assign k v es).map fun e => g e.2).sum + ((lookup k es).map g).getD 0 =
      (es.map fun e => g e.2).sum + g v := by
  induction es with
  | nil => simp [assign, lookup]
  | cons e es ih =>
    obtain ⟨l, w⟩ := e
    by_cases h : l = k
    . simp only [assign, lookup, h, if_true, List.map_cons, List.sum_cons, Option.map_some,
        Option.getD_some]
      omega
    . simp only [assign, lookup, h, if_false, List.map_cons, List.sum_cons]
      omega

theorem sum_values_insert (g : ν → Nat) (t : Table κ ν) (k : κ) (v : ν) :
    ((t.insert k v).values.map g).sum + ((t.find? k).map g).getD 0 =
      (t.values.map g).sum + g v := by
  have h := sum_assign g k v t.entries
  simp only [values, List.map_map]
  exact h

end Table

/--
A source is kept under its own name and its functions under their own addresses. It has some, and
they come from it.
-/
structure SourceSymbols.IsKept (name : String) (source : SourceSymbols LuaFunction) : Prop where
  name_eq : source.name = name
  size_pos : 0 < source.functions.size
  functions : ∀ a f, source.functions.find? a = some f →
    f.address = a ∧ a ≠ .null ∧ f.source.value? = some name

namespace StateSymbols

def IsKept (s : StateSymbols LuaFunction) : Prop :=
  ∀ name source, s.source? name = some source → source.IsKept name

def functionCount (s : StateSymbols LuaFunction) : Nat :=
  (s.sources.values.map (·.functions.size)).sum

/--
The symbols differ by one function, which a source of this name holds in addition. If there was none
it begins with the object that its name is in and no file.
-/
structure Adds (s s' : StateSymbols LuaFunction) (name : String) (object : Address)
    (f : LuaFunction) : Prop where
  absent : ¬s.Holds name f.address
  function : ∀ a, (s'.source? name).bind (·.functions.find? a) =
    if f.address = a then some f else (s.source? name).bind (·.functions.find? a)
  kept : ∀ source, s.source? name = some source →
    ∃ functions, s'.source? name = some { source with functions := functions }
  begun : s.source? name = none →
    ∃ functions, s'.source? name = some ⟨name, object, none, functions⟩
  others : ∀ other, name ≠ other → s'.source? other = s.source? other
  sourceCount : s'.sources.size =
    if (s.source? name).isSome then s.sources.size else s.sources.size + 1
  functionCount : s'.functionCount = s.functionCount + 1
  names : s'.names = s.names
  scripts : s'.scripts = s.scripts

variable {s s' : StateSymbols LuaFunction} {name : String} {object : Address} {f g : LuaFunction}

theorem IsKept.name_sourceFor (hs : s.IsKept) : (s.sourceFor name g).name = name := by
  unfold sourceFor
  cases h : s.source? name with
  | none => rfl
  | some source => exact (hs name source h).name_eq

theorem functions_sourceFor (a : Address) :
    (s.sourceFor name g).functions.find? a = (s.source? name).bind (·.functions.find? a) := by
  unfold sourceFor
  cases s.source? name <;> rfl

theorem source?_insert (source : SourceSymbols LuaFunction) (other : String) :
    (s.insert source f).source? other =
      if source.name = other then
        some { source with functions := source.functions.insert f.address f }
      else s.source? other :=
  Table.find?_insert s.sources source.name other _

theorem functionCount_insert (hs : s.IsKept)
    (hfree : ¬(s.sourceFor name g).functions.contains f.address) :
    (s.insert (s.sourceFor name g) f).functionCount = s.functionCount + 1 := by
  have hbefore : ((s.source? name).map (·.functions.size)).getD 0 =
      (s.sourceFor name g).functions.size := by
    unfold sourceFor
    cases s.source? name <;> rfl
  have hname : (s.sourceFor name g).name = name := hs.name_sourceFor
  -- a source that is begun here takes the place of one without functions, as far as the sum goes
  generalize s.sourceFor name g = source at hfree hbefore hname ⊢
  have hsum : (s.insert source f).functionCount +
      ((s.source? source.name).map (·.functions.size)).getD 0 =
        s.functionCount + (source.functions.insert f.address f).size :=
    Table.sum_values_insert (fun source : SourceSymbols LuaFunction => source.functions.size)
      s.sources source.name _
  rw [hname, hbefore, Table.size_insert, if_neg hfree] at hsum
  omega

theorem adds_insert (hs : s.IsKept)
    (hfree : ¬(s.sourceFor name g).functions.contains f.address) :
    s.Adds (s.insert (s.sourceFor name g) f) name g.sourceAddress f := by
  have hname : (s.sourceFor name g).name = name := hs.name_sourceFor
  have hsource : (s.insert (s.sourceFor name g) f).source? name =
      some { s.sourceFor name g with
        functions := (s.sourceFor name g).functions.insert f.address f } := by
    rw [source?_insert, if_pos hname]
  constructor
  . rw [Table.contains, functions_sourceFor] at hfree
    exact hfree
  . intro a
    rw [hsource, Option.bind_some, Table.find?_insert, functions_sourceFor]
  . intro source h
    rw [hsource]
    refine ⟨(s.sourceFor name g).functions.insert f.address f, ?_⟩
    rw [sourceFor, h]
    rfl
  . intro h
    rw [hsource]
    refine ⟨(s.sourceFor name g).functions.insert f.address f, ?_⟩
    rw [sourceFor, h]
    rfl
  . intro other hne
    rw [source?_insert, hname, if_neg hne]
  . unfold insert
    rw [Table.size_insert, hname]
    rfl
  . exact functionCount_insert hs hfree
  . rfl
  . rfl

theorem Adds.isKept (h : s.Adds s' name object f) (hs : s.IsKept) (hnull : f.address ≠ .null)
    (hsource : f.source.value? = some name) : s'.IsKept := by
  intro other source hother
  by_cases hne : name = other
  . subst hne
    have hfunctions (a : Address) : source.functions.find? a =
        if f.address = a then some f else (s.source? name).bind (·.functions.find? a) := by
      rw [← h.function a, hother]
      rfl
    constructor
    . cases hold : s.source? name with
      | none =>
        rcases h.begun hold with ⟨functions, hnew⟩
        rw [hother, Option.some.injEq] at hnew
        rw [hnew]
      | some old =>
        rcases h.kept old hold with ⟨functions, hnew⟩
        rw [hother, Option.some.injEq] at hnew
        rw [hnew]
        exact (hs name old hold).name_eq
    . have hadded := hfunctions f.address
      rw [if_pos rfl] at hadded
      exact Table.size_pos_of_find? hadded
    . intro a k hk
      rw [hfunctions a] at hk
      split at hk
      . next haddress =>
        injection hk with hk
        subst hk haddress
        exact ⟨rfl, hnull, hsource⟩
      . rw [Option.bind_eq_some_iff] at hk
        rcases hk with ⟨old, hold, hk⟩
        exact (hs name old hold).functions a k hk
  . rw [h.others other hne] at hother
    exact hs other source hother

theorem result_register_cases (hs : s.IsKept) (m : Memory) (hf : f.WasRead) :
    ((s.register m.target f).result m = .ok (s, false) ∧
      ∀ name, (f.located m).source = .found name → s.Holds name f.address) ∨
    ∃ name s', (s.register m.target f).result m = .ok (s', true) ∧
      (f.located m).source = .found name ∧
      s.Adds s' name (f.located m).sourceAddress (f.completed m) := by
  -- a function that was read is not turned down, so that there is always an answer
  rw [result_register m s hf.isNull_eq_false]
  cases hsource : (f.located m).source with
  | unread | missing | failed => exact Or.inl ⟨rfl, nofun⟩
  | found name =>
    simp only [Fetched.value?]
    split
    . next hheld =>
      refine Or.inl ⟨rfl, ?_⟩
      intro other heq
      injection heq with heq
      subst heq
      rw [Table.contains, functions_sourceFor] at hheld
      exact hheld
    . next hfree =>
      rw [← LuaFunction.address_completed m f] at hfree
      exact Or.inr ⟨name, _, rfl, rfl, adds_insert hs hfree⟩

end StateSymbols

namespace Event

open LuaFunction StateSymbols

def addsFunction (s : StateSymbols LuaFunction) (e : Event) : Bool :=
  match e.operation with
  | .register f _ =>
    match (s.register e.memory.target f).result e.memory with
    | .ok (_, added) => added
    | .error _ => false
  | _ => false

def additions (s : StateSymbols LuaFunction) : List Event → Nat
  | [] => 0
  | e :: es => (if e.addsFunction s then 1 else 0) + additions (e.change s) es

theorem isKept_empty : (StateSymbols.empty : StateSymbols LuaFunction).IsKept := by
  intro name source h
  contradiction

theorem functionCount_resolve (s : StateSymbols LuaFunction) (name file : String) :
    (s.resolve name file).1.functionCount = s.functionCount := by
  unfold StateSymbols.resolve
  cases hsource : s.source? name with
  | none => rfl
  | some source =>
    have hsum := Table.sum_values_insert
      (fun source : SourceSymbols LuaFunction => source.functions.size) s.sources name
      { source with resolved := some file }
    rw [show s.sources.find? name = _ from hsource] at hsum
    exact Nat.add_right_cancel hsum

theorem source?_resolve (s : StateSymbols LuaFunction) (name file other : String) :
    (s.resolve name file).1.source? other =
      if name = other then (s.source? name).map fun source => { source with resolved := some file }
      else s.source? other := by
  unfold StateSymbols.resolve
  cases hsource : s.source? name with
  | none =>
    by_cases hname : name = other
    . subst hname
      rw [if_pos rfl]
      exact hsource
    . rw [if_neg hname]
  | some source => exact Table.find?_insert s.sources name other _

theorem isKept_resolve {s : StateSymbols LuaFunction} (hs : s.IsKept) (name file : String) :
    (s.resolve name file).1.IsKept := by
  intro other source h
  rw [source?_resolve] at h
  split at h
  . next heq =>
    subst heq
    rw [Option.map_eq_some_iff] at h
    rcases h with ⟨old, hold, rfl⟩
    have hkept := hs name old hold
    exact ⟨hkept.name_eq, hkept.size_pos, hkept.functions⟩
  . exact hs other source h

theorem change_of_result {s s' : StateSymbols LuaFunction} {v : Address} {m : Memory}
    {f : LuaFunction} (hf : f.WasRead) {added : Bool}
    (h : (s.register m.target f).result m = .ok (s', added)) :
    (Event.mk v m (.register f hf)).change s = s' ∧
      (Event.mk v m (.register f hf)).addsFunction s = added := by
  simp only [change, addsFunction, h, and_self]

theorem isKept_change {s : StateSymbols LuaFunction} (hs : s.IsKept) (e : Event) :
    (e.change s).IsKept ∧
      (e.change s).functionCount = s.functionCount + if e.addsFunction s then 1 else 0 := by
  rcases e with ⟨v, m, operation⟩
  cases operation with
  | fetch | drop | addName | addScript => exact ⟨hs, rfl⟩
  | resolve name file => exact ⟨isKept_resolve hs name file, functionCount_resolve s name file⟩
  | register f hf =>
    rcases result_register_cases hs m hf with ⟨hresult, -⟩ | ⟨name, s', hresult, hfound, hadds⟩
    . rcases change_of_result (v := v) hf hresult with ⟨hchange, hadded⟩
      rw [hchange, hadded]
      exact ⟨hs, rfl⟩
    . rcases change_of_result (v := v) hf hresult with ⟨hchange, hadded⟩
      rw [hchange, hadded]
      refine ⟨?_, hadds.functionCount⟩
      apply hadds.isKept hs
      . rw [LuaFunction.address_completed]
        intro hnull
        have := hf.isNull_eq_false
        rw [hnull] at this
        contradiction
      . rw [LuaFunction.source_completed, hfound]
        rfl

theorem isKept_foldl {s : StateSymbols LuaFunction} (hs : s.IsKept) (es : List Event) :
    (es.foldl change s).IsKept ∧
      (es.foldl change s).functionCount = s.functionCount + additions s es := by
  induction es generalizing s with
  | nil => exact ⟨hs, rfl⟩
  | cons e es ih =>
    rcases isKept_change hs e with ⟨hkept, hcount⟩
    rcases ih hkept with ⟨hkept', hcount'⟩
    refine ⟨hkept', ?_⟩
    rw [List.foldl_cons, hcount', hcount, additions, Nat.add_assoc]

/--
Whatever was done to the symbols of a state, they hold as many functions as were said to be added
since it was dropped, each under its address in the source that it comes from, and no source without
any. To register one more adds it, and nothing else, or changes nothing. This is the case only if
its source cannot be found or holds it already.
-/
theorem registers_all_or_nothing (es : List Event) (v : Address) :
    let s := (replay es).symbols v
    s.IsKept ∧
    s.functionCount = additions .empty (recent v es) ∧
    ∀ (m : Memory) (f : LuaFunction), f.WasRead →
      ∃ s' added, (s.register m.target f).result m = .ok (s', added) ∧
        (added = false → s' = s ∧
          ∀ name, (f.located m).source = .found name → s.Holds name f.address) ∧
        (added = true → ∃ name, (f.located m).source = .found name ∧
          s.Adds s' name (f.located m).sourceAddress (f.completed m)) := by
  intro s
  have hfold := isKept_foldl isKept_empty (recent v es)
  rw [← symbols_replay] at hfold
  rcases hfold with ⟨hkept, hcount⟩
  refine ⟨hkept, ?_, ?_⟩
  . rw [hcount]
    exact Nat.zero_add _
  . intro m f hf
    rcases result_register_cases hkept m hf with
      ⟨hresult, hheld⟩ | ⟨name, s', hresult, hfound, hadds⟩
    . exact ⟨s, false, hresult, fun _ => ⟨rfl, hheld⟩, nofun⟩
    . exact ⟨s', true, hresult, nofun, fun _ => ⟨name, hfound, hadds⟩⟩

theorem wasRead_first_letter : (emptyFunction ⟨0x1000⟩ ⟨0x1090⟩).WasRead :=
  @WasRead.read (imageOfTwo 0x61 0x62).memory .v51 ⟨0x1000⟩ _ (by decide +kernel)

theorem registers_second_letter :
    let m := (imageOfTwo 0x61 0x62).memory
    ∃ (f g : LuaFunction) (hf : f.WasRead), g.WasRead ∧
      let s := (replay [⟨⟨1⟩, m, .register f hf⟩]).symbols ⟨1⟩
      s.IsKept ∧ s.functionCount = 1 ∧
      ∃ s', (s.register m.target g).result m = .ok (s', true) ∧
        s.Adds s' "b" ⟨0x10A8⟩ (g.completed m) := by
  intro m
  let g := emptyFunction ⟨0x1048⟩ ⟨0x10A8⟩
  have hg : g.WasRead := @WasRead.read m .v51 ⟨0x1048⟩ _ (by decide +kernel)
  refine ⟨_, g, wasRead_first_letter, hg, ?_⟩
  intro s
  rcases registers_all_or_nothing [⟨⟨1⟩, m, .register _ wasRead_first_letter⟩] ⟨1⟩ with
    ⟨hkept, hcount, hregister⟩
  rcases hregister m g hg with ⟨s', added, hresult, _, hadds⟩
  have hadded : ((s.register m.target g).result m).toOption.map Prod.snd = some true := by
    decide +kernel
  have hlocated : ((g.located m).source, (g.located m).sourceAddress) =
      (.found "b", (⟨0x10A8⟩ : Address)) := by
    decide +kernel
  rw [hresult] at hadded
  injection hadded with hadded
  subst hadded
  rcases hadds rfl with ⟨name, hfound, hadds⟩
  injection hlocated with hsource haddress
  rw [hfound] at hsource
  injection hsource with hname
  rw [hname, haddress] at hadds
  refine ⟨hkept, ?_, s', hresult, hadds⟩
  rw [hcount]
  decide +kernel

end Event

end LuaScope
