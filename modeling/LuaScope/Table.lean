/-!
This module contains finite tables. Each key has one value, and the entries keep the order in which
their keys came in.
-/

namespace LuaScope

structure Table (κ ν : Type) where
  entries : List (κ × ν)
  nodup : (entries.map Prod.fst).Nodup

namespace Table

variable {κ ν : Type} [DecidableEq κ]

def empty : Table κ ν := ⟨[], by simp⟩

def lookup (k : κ) : List (κ × ν) → Option ν
  | [] => none
  | (l, v) :: es => if l = k then some v else lookup k es

def assign (k : κ) (v : ν) : List (κ × ν) → List (κ × ν)
  | [] => [(k, v)]
  | (l, w) :: es => if l = k then (k, v) :: es else (l, w) :: assign k v es

theorem keys_assign (k : κ) (v : ν) (es : List (κ × ν)) :
    (assign k v es).map Prod.fst =
      if k ∈ es.map Prod.fst then es.map Prod.fst else es.map Prod.fst ++ [k] := by
  induction es with
  | nil => simp [assign]
  | cons e es ih =>
    obtain ⟨l, w⟩ := e
    simp only [assign]
    by_cases h : l = k
    . subst h
      simp
    . rw [if_neg h]
      simp only [List.map_cons, List.mem_cons, ih]
      have h' : ¬k = l := fun e => h e.symm
      by_cases hk : k ∈ es.map Prod.fst <;> simp [hk, h']

theorem nodup_assign (k : κ) (v : ν) {es : List (κ × ν)} (h : (es.map Prod.fst).Nodup) :
    ((assign k v es).map Prod.fst).Nodup := by
  rw [keys_assign]
  split
  . exact h
  . rename_i hk
    rw [List.nodup_append]
    refine ⟨h, by simp, ?_⟩
    intro a ha b hb e
    rw [List.mem_singleton] at hb
    subst e
    subst hb
    exact hk ha

theorem lookup_assign (k l : κ) (v : ν) (es : List (κ × ν)) :
    lookup l (assign k v es) = if k = l then some v else lookup l es := by
  induction es with
  | nil => simp [assign, lookup]
  | cons e es ih =>
    obtain ⟨m, w⟩ := e
    simp only [assign]
    by_cases h : m = k
    . subst h
      by_cases hl : m = l <;> simp [lookup, hl]
    . rw [if_neg h]
      simp only [lookup, ih]
      by_cases hm : m = l
      . subst hm
        have h' : ¬k = m := fun e => h e.symm
        simp [h']
      . simp [hm]

theorem assign_assign (k : κ) (v w : ν) (es : List (κ × ν)) :
    assign k w (assign k v es) = assign k w es := by
  induction es with
  | nil => simp [assign]
  | cons e es ih =>
    obtain ⟨l, u⟩ := e
    by_cases h : l = k
    . simp [assign, h]
    . simp [assign, h, ih]

theorem length_assign (k : κ) (v : ν) (es : List (κ × ν)) :
    (assign k v es).length = if (lookup k es).isSome then es.length else es.length + 1 := by
  induction es with
  | nil => rfl
  | cons e es ih =>
    obtain ⟨l, w⟩ := e
    by_cases h : l = k
    . simp [assign, lookup, h]
    . simp only [assign, lookup, h, if_false, List.length_cons, ih]
      split <;> rfl

theorem lookup_isSome_iff {k : κ} {es : List (κ × ν)} :
    (lookup k es).isSome ↔ k ∈ es.map Prod.fst := by
  induction es with
  | nil => simp [lookup]
  | cons e es ih =>
    obtain ⟨l, w⟩ := e
    simp only [lookup, List.map_cons, List.mem_cons, ← ih]
    by_cases h : l = k
    . simp [h]
    . have h' : ¬k = l := fun e => h e.symm
      simp [h, h']

theorem lookup_eq_some_iff {k : κ} {v : ν} {es : List (κ × ν)} (h : (es.map Prod.fst).Nodup) :
    lookup k es = some v ↔ (k, v) ∈ es := by
  induction es with
  | nil => simp [lookup]
  | cons e es ih =>
    obtain ⟨l, w⟩ := e
    rw [List.map_cons, List.nodup_cons] at h
    simp only [lookup, List.mem_cons, Prod.mk.injEq]
    by_cases hl : l = k
    . subst hl
      have hother : (l, v) ∉ es := fun hmem => h.1 (List.mem_map.mpr ⟨_, hmem, rfl⟩)
      simp [hother, eq_comm]
    . have hl' : ¬k = l := fun e => hl e.symm
      simp [hl, hl', ih h.2]

def find? (t : Table κ ν) (k : κ) : Option ν := lookup k t.entries

def contains (t : Table κ ν) (k : κ) : Bool := (t.find? k).isSome

def insert (t : Table κ ν) (k : κ) (v : ν) : Table κ ν :=
  ⟨assign k v t.entries, nodup_assign k v t.nodup⟩

def erase (t : Table κ ν) (k : κ) : Table κ ν :=
  ⟨t.entries.filter (fun e => e.1 ≠ k), t.nodup.sublist (List.filter_sublist.map _)⟩

def size (t : Table κ ν) : Nat := t.entries.length

def isEmpty (t : Table κ ν) : Bool := t.entries.isEmpty

def values (t : Table κ ν) : List ν := t.entries.map Prod.snd

theorem find?_eq_some_iff {t : Table κ ν} {k : κ} {v : ν} :
    t.find? k = some v ↔ (k, v) ∈ t.entries :=
  lookup_eq_some_iff t.nodup

@[simp]
theorem find?_empty (k : κ) : (empty : Table κ ν).find? k = none := rfl

theorem find?_insert (t : Table κ ν) (k l : κ) (v : ν) :
    (t.insert k v).find? l = if k = l then some v else t.find? l :=
  lookup_assign k l v t.entries

theorem insert_insert (t : Table κ ν) (k : κ) (v w : ν) :
    (t.insert k v).insert k w = t.insert k w := by
  simp [insert, assign_assign]

theorem size_insert (t : Table κ ν) (k : κ) (v : ν) :
    (t.insert k v).size = if t.contains k then t.size else t.size + 1 :=
  length_assign k v t.entries

theorem size_pos_of_find? {t : Table κ ν} {k : κ} {v : ν} (h : t.find? k = some v) :
    0 < t.size :=
  List.length_pos_of_mem (find?_eq_some_iff.mp h)

theorem lookup_filter (k l : κ) (es : List (κ × ν)) :
    lookup l (es.filter (fun e => e.1 ≠ k)) = if k = l then none else lookup l es := by
  induction es with
  | nil => simp [lookup]
  | cons e es ih =>
    obtain ⟨m, w⟩ := e
    by_cases hm : m = k
    . subst hm
      simp only [ne_eq, not_true_eq_false, decide_false, Bool.false_eq_true, not_false_eq_true,
        List.filter_cons_of_neg, lookup]
      rw [ih]
      by_cases hl : m = l <;> simp [hl]
    . simp only [ne_eq, hm, not_false_eq_true, decide_true, List.filter_cons_of_pos, lookup]
      rw [ih]
      by_cases hl : k = l
      . subst hl
        simp [hm]
      . simp [hl]

theorem find?_erase (t : Table κ ν) (k l : κ) :
    (t.erase k).find? l = if k = l then none else t.find? l :=
  lookup_filter k l t.entries

end Table

end LuaScope
