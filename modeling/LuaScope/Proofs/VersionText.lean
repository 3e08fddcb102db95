import LuaScope.Proofs.LetterCase
import LuaScope.Version

/-!
This module contains the proof that a version is read from the texts of its grammar and from no
others. The name and the separators are taken off as long as there are any, and neither can be taken
for a part of what is behind it.
-/

namespace LuaScope

namespace Version

variable {s : String} {v : Version} {cs ds : List Char}

def minor : Version → Char
  | .v51 => '1'
  | .v52 => '2'
  | .v53 => '3'
  | .v54 => '4'

def HasNumber (v : Version) (cs : List Char) : Prop :=
  cs = ['5', '.', v.minor] ∨ cs = ['5', v.minor]

def IsName (cs : List Char) : Prop :=
  cs.map Char.toLower = ['l', 'u', 'a']

/--
The texts of a version: between white space, copies of the name, then hyphens and spaces, then the
number.
-/
def Spelled (v : Version) (s : String) : Prop :=
  ∃ (names : List (List Char)) (separators number : List Char),
    Trims s.toList (names.flatten ++ separators ++ number) ∧
    (∀ name ∈ names, IsName name) ∧
    (∀ c ∈ separators, c = '-' ∨ c = ' ') ∧
    v.HasNumber number

theorem ofNumber?_eq_some_iff : ofNumber? cs = some v ↔ v.HasNumber cs := by
  constructor
  . intro h
    unfold ofNumber? at h
    split at h <;> cases h <;> simp [HasNumber, minor]
  . rintro (rfl | rfl) <;> cases v <;> rfl

theorem dropName_of_head (h : cs.head? ≠ some 'l') : dropName cs = cs := by
  unfold dropName
  split
  . contradiction
  . rfl

theorem dropName_flatten {names : List (List Char)} (hnames : ∀ name ∈ names, IsName name)
    (hrest : cs.head? ≠ some 'l') :
    dropName (names.flatten.map Char.toLower ++ cs) = cs := by
  induction names with
  | nil => exact dropName_of_head hrest
  | cons name names ih =>
    rw [List.forall_mem_cons] at hnames
    rw [List.flatten_cons, List.map_append, hnames.1]
    exact ih hnames.2

theorem exists_names (cs : List Char) :
    ∃ (names : List (List Char)) (rest : List Char), cs = names.flatten ++ rest ∧
      (∀ name ∈ names, IsName name) ∧
      rest.map Char.toLower = dropName (cs.map Char.toLower) := by
  generalize hds : cs.map Char.toLower = ds
  fun_induction dropName ds generalizing cs with
  | case1 ds ih =>
    have happend : cs.map Char.toLower = ['l', 'u', 'a'] ++ ds := hds
    rcases List.map_eq_append_iff.mp happend with ⟨name, tail, rfl, hname, htail⟩
    rcases ih tail htail with ⟨names, rest, rfl, hnames, hrest⟩
    refine ⟨name :: names, rest, ?_, List.forall_mem_cons.mpr ⟨hname, hnames⟩, hrest⟩
    rw [List.flatten_cons, List.append_assoc]
  | case2 ds hnone => exact ⟨[], cs, rfl, nofun, hds⟩

theorem isSeparator_iff {c : Char} : isSeparator c = true ↔ c = '-' ∨ c = ' ' := by
  simp [isSeparator]

theorem HasNumber.lt (h : v.HasNumber cs) : ∀ c ∈ cs, c.toNat < 'a'.toNat := by
  rcases h with rfl | rfl <;> cases v <;> simp [minor]

theorem HasNumber.map_toLower (h : v.HasNumber cs) : cs.map Char.toLower = cs := by
  rcases h with rfl | rfl <;> cases v <;> rfl

theorem HasNumber.exists_cons (h : v.HasNumber cs) : ∃ ds, cs = '5' :: ds := by
  rcases h with rfl | rfl <;> exact ⟨_, rfl⟩

theorem spelled_of_parse? (h : parse? s = some v) : v.Spelled s := by
  unfold parse? at h
  dsimp only at h
  rw [ofNumber?_eq_some_iff] at h
  rcases exists_names (trimBlank s.toList) with ⟨names, rest, hall, hnames, hrest⟩
  rw [← hrest] at h
  have hseparators : ∀ c ∈ (rest.map Char.toLower).takeWhile isSeparator, isSeparator c :=
    List.all_eq_true.mp List.all_takeWhile
  -- behind the names there are separators and digits only, which folding leaves as they are
  have hself : rest = rest.map Char.toLower := by
    apply eq_of_map_toLower rfl
    rw [← List.takeWhile_append_dropWhile (p := isSeparator) (l := rest.map Char.toLower),
      List.forall_mem_append]
    refine ⟨?_, h.lt⟩
    intro c hc
    rcases isSeparator_iff.mp (hseparators c hc) with rfl | rfl <;> decide
  rw [← hself] at h hseparators
  refine ⟨names, rest.takeWhile isSeparator, rest.dropWhile isSeparator, ?_, hnames, ?_, h⟩
  . rw [List.append_assoc, List.takeWhile_append_dropWhile, ← hall]
    apply trims_trimBlank
  . intro c hc
    exact isSeparator_iff.mp (hseparators c hc)

theorem parse?_of_spelled (h : v.Spelled s) : parse? s = some v := by
  rcases h with ⟨names, separators, number, htrims, hnames, hseparators, hnumber⟩
  have hfolded : separators.map Char.toLower = separators := by
    rw [List.map_congr_left (g := id), List.map_id]
    intro c hc
    rcases hseparators c hc with rfl | rfl <;> rfl
  have hhead : (separators ++ number).head? ≠ some 'l' := by
    cases separators with
    | nil =>
      rcases hnumber.exists_cons with ⟨ds, rfl⟩
      simp
    | cons c cs =>
      rcases hseparators c List.mem_cons_self with rfl | rfl <;> simp
  have hdropped : (separators ++ number).dropWhile isSeparator = number := by
    rw [List.dropWhile_append_of_pos fun c hc => isSeparator_iff.mpr (hseparators c hc)]
    rcases hnumber.exists_cons with ⟨ds, rfl⟩
    rfl
  unfold parse?
  dsimp only
  rw [trimBlank_eq_iff.mpr htrims, List.append_assoc, List.map_append, List.map_append, hfolded,
    hnumber.map_toLower, dropName_flatten hnames hhead, hdropped, ofNumber?_eq_some_iff]
  exact hnumber

theorem parse_by_grammar (s : String) :
    (∀ v, parse s = .ok v ↔ v.Spelled s) ∧
    ((∀ v : Version, ¬v.Spelled s) ↔ parse s = .error (.unknownVersion s)) := by
  have hspelled (v : Version) : v.Spelled s ↔ parse? s = some v :=
    ⟨parse?_of_spelled, spelled_of_parse?⟩
  unfold parse
  simp only [hspelled]
  cases parse? s with
  | some v => simp
  | none => simp

end Version

end LuaScope
