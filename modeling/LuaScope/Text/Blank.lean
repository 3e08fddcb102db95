import LuaScope.Text.CodeRanges

/-!
This module contains the characters with the Unicode property `White_Space` and the removal of such
characters around a text.
-/

namespace LuaScope

def blankRanges : CodeRanges :=
  [(0x9, 0xD), (0x20, 0x20), (0x85, 0x85), (0xA0, 0xA0), (0x1680, 0x1680), (0x2000, 0x200A),
    (0x2028, 0x2029), (0x202F, 0x202F), (0x205F, 0x205F), (0x3000, 0x3000)]

def isBlank (c : Char) : Bool :=
  blankRanges.contains c

theorem not_isBlank_of_lt {c : Char} (hlow : 0x20 < c.toNat) (hhigh : c.toNat < 0x7F) :
    ¬isBlank c := by
  unfold isBlank
  rw [CodeRanges.contains_iff]
  simp only [blankRanges, List.mem_cons, List.not_mem_nil, or_false, exists_eq_or_imp,
    exists_eq_left]
  omega

def trimBlank (cs : List Char) : List Char :=
  ((cs.dropWhile isBlank).reverse.dropWhile isBlank).reverse

/--
What is left of a text has white space around it, but neither begins nor ends with any.
-/
structure Trims (cs rest : List Char) : Prop where
  margins : ∃ front back, cs = front ++ rest ++ back ∧
    (∀ c ∈ front, isBlank c) ∧ ∀ c ∈ back, isBlank c
  head : ∀ c ∈ rest.head?, ¬isBlank c
  last : ∀ c ∈ rest.getLast?, ¬isBlank c

theorem trims_self {cs : List Char} (h : ∀ c ∈ cs, ¬isBlank c) : Trims cs cs := by
  constructor
  . exact ⟨[], [], by simp, by simp, by simp⟩
  . intro c hc
    exact h c (List.mem_of_mem_head? hc)
  . intro c hc
    exact h c (List.mem_of_mem_getLast? hc)

theorem exists_front (cs : List Char) :
    ∃ front, cs = front ++ cs.dropWhile isBlank ∧ (∀ c ∈ front, isBlank c) ∧
      ∀ c ∈ (cs.dropWhile isBlank).head?, ¬isBlank c := by
  refine ⟨cs.takeWhile isBlank, List.takeWhile_append_dropWhile.symm, ?_, ?_⟩
  . apply List.all_eq_true.mp List.all_takeWhile
  . intro c hc
    have hhead := List.head?_dropWhile_not isBlank cs
    rw [Option.mem_def] at hc
    rw [hc] at hhead
    rw [Bool.not_eq_true]
    exact hhead

theorem trims_trimBlank (cs : List Char) : Trims cs (trimBlank cs) := by
  rcases exists_front cs with ⟨front, hcs, hfront, hhead⟩
  rcases exists_front (cs.dropWhile isBlank).reverse with ⟨back, hrest, hback, hlast⟩
  have hall : cs.dropWhile isBlank = trimBlank cs ++ back.reverse := by
    rw [trimBlank, ← List.reverse_append, ← hrest, List.reverse_reverse]
  constructor
  . refine ⟨front, back.reverse, ?_, hfront, ?_⟩
    . rw [List.append_assoc, ← hall]
      exact hcs
    . intro c hc
      apply hback c (List.mem_reverse.mp hc)
  . intro c hc
    apply hhead
    rw [hall, Option.mem_def, List.head?_append, hc]
    rfl
  . intro c hc
    apply hlast
    rw [trimBlank, List.getLast?_reverse] at hc
    exact hc

theorem dropWhile_isBlank {front cs : List Char} (hfront : ∀ c ∈ front, isBlank c)
    (hhead : ∀ c ∈ cs.head?, ¬isBlank c) : (front ++ cs).dropWhile isBlank = cs := by
  rw [List.dropWhile_append_of_pos hfront]
  cases cs with
  | nil => rfl
  | cons c cs => exact List.dropWhile_cons_of_neg (hhead c rfl)

theorem trimBlank_eq_iff {cs rest : List Char} : trimBlank cs = rest ↔ Trims cs rest := by
  constructor
  . rintro rfl
    apply trims_trimBlank
  . rintro ⟨⟨front, back, rfl, hfront, hback⟩, hhead, hlast⟩
    unfold trimBlank
    rw [List.append_assoc]
    cases rest with
    | nil =>
      have hblank : ∀ c ∈ front ++ back, isBlank c := List.forall_mem_append.mpr ⟨hfront, hback⟩
      rw [List.nil_append, ← List.append_nil (front ++ back), dropWhile_isBlank hblank (by simp)]
      rfl
    | cons c cs =>
      have hrest : (front ++ (c :: cs ++ back)).dropWhile isBlank = c :: cs ++ back :=
        dropWhile_isBlank hfront hhead
      rw [hrest, List.reverse_append, dropWhile_isBlank, List.reverse_reverse]
      . intro d hd
        apply hback d (List.mem_reverse.mp hd)
      . rw [List.head?_reverse]
        exact hlast

end LuaScope
