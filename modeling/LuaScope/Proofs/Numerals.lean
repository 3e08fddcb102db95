import Mathlib.Data.List.Induction
import LuaScope.Numeral

/-!
This module contains what numerals are: digits with the value that their places give them. Reading
accepts exactly these, below the bound and behind at most one plus sign, and writing makes the one
that is the shortest.
-/

namespace LuaScope

namespace Numeral

def IsDigit (radix : Nat) (c : Char) (d : Nat) : Prop :=
  d < radix ∧
    (d < 10 ∧ c.toNat = '0'.toNat + d ∨
      10 ≤ d ∧ (c.toNat + 10 = 'a'.toNat + d ∨ c.toNat + 10 = 'A'.toNat + d))

/--
One digit or more, the last of which counts ones and every other one the radix times as much as the
one behind it.
-/
inductive Reads (radix : Nat) : List Char → Nat → Prop where
  | one {c : Char} {d : Nat} (hd : IsDigit radix c d) : Reads radix [c] d
  | more {cs : List Char} {n : Nat} {c : Char} {d : Nat} (hcs : Reads radix cs n)
    (hd : IsDigit radix c d) : Reads radix (cs ++ [c]) (n * radix + d)

variable {radix bound acc n m d : Nat} {c : Char} {cs ds : List Char}

theorem digit?_eq_some_iff (hradix : radix ≤ 36) :
    digit? radix c = some d ↔ IsDigit radix c d := by
  have hle (a b : Char) : a ≤ b ↔ a.toNat ≤ b.toNat := Iff.rfl
  unfold digit? IsDigit
  simp only [hle, Option.ite_none_right_eq_some, Option.some.injEq]
  simp only [Char.reduceToNat]
  split
  . omega
  . split
    . omega
    . split <;> omega

theorem readDigits_append : readDigits radix bound acc (cs ++ ds) =
    (readDigits radix bound acc cs).bind fun n => readDigits radix bound n ds := by
  induction cs generalizing acc with
  | nil => rfl
  | cons c cs ih =>
    rw [List.cons_append, readDigits, readDigits]
    cases digit? radix c with
    | none => rfl
    | some d =>
      dsimp only
      split
      . apply ih
      . rfl

theorem readDigits_concat_eq_ok_iff : readDigits radix bound acc (cs ++ [c]) = .ok m ↔
    ∃ n d, readDigits radix bound acc cs = .ok n ∧ digit? radix c = some d ∧ m = n * radix + d ∧
      m < bound := by
  rw [readDigits_append]
  cases readDigits radix bound acc cs with
  | error fault => simp [Except.bind]
  | ok n =>
    simp only [Except.bind, readDigits, Except.ok.injEq]
    cases digit? radix c with
    | none => simp
    | some d =>
      dsimp only
      split <;> grind

theorem Reads.ne_nil (h : Reads radix cs n) : cs ≠ [] := by
  cases h <;> simp

theorem readDigits_eq_ok_iff (hpos : 0 < radix) (hradix : radix ≤ 36) (hcs : cs ≠ []) :
    readDigits radix bound 0 cs = .ok n ↔ Reads radix cs n ∧ n < bound := by
  constructor
  . intro h
    induction cs using List.reverseRecOn generalizing n with
    | nil => contradiction
    | append_singleton cs c ih =>
      rcases readDigits_concat_eq_ok_iff.mp h with ⟨k, d, hk, hd, rfl, hlt⟩
      rw [digit?_eq_some_iff hradix] at hd
      refine ⟨?_, hlt⟩
      by_cases hnil : cs = []
      . subst hnil
        injection hk with hk
        subst hk
        simpa using Reads.one hd
      . exact .more (ih hnil hk).1 hd
  . rintro ⟨h, hlt⟩
    clear hcs
    induction h with
    | one hd =>
      rw [← List.nil_append [_], readDigits_concat_eq_ok_iff]
      exact ⟨0, _, rfl, (digit?_eq_some_iff hradix).mpr hd, by simp, hlt⟩
    | @more cs n c d hcs hd ih =>
      have hle := Nat.le_mul_of_pos_right n hpos
      rw [readDigits_concat_eq_ok_iff]
      exact ⟨n, d, ih (by omega), (digit?_eq_some_iff hradix).mpr hd, rfl, hlt⟩

theorem Reads.eq (hpos : 0 < radix) (hradix : radix ≤ 36) (hn : Reads radix cs n)
    (hm : Reads radix cs m) : n = m := by
  have hread (k : Nat) : readDigits radix (n + m + 1) 0 cs = .ok k ↔
      Reads radix cs k ∧ k < n + m + 1 :=
    readDigits_eq_ok_iff hpos hradix hn.ne_nil
  have hok := (hread n).mpr ⟨hn, by omega⟩
  rw [(hread m).mpr ⟨hm, by omega⟩] at hok
  injection hok with hok
  exact hok.symm

theorem Reads.isDigit (h : Reads radix cs n) : ∀ c ∈ cs, ∃ d, IsDigit radix c d := by
  induction h with
  | one hd => exact List.forall_mem_singleton.mpr ⟨_, hd⟩
  | more hcs hd ih =>
    rw [List.forall_mem_append, List.forall_mem_singleton]
    exact ⟨ih, _, hd⟩

theorem not_reads_cons (h : c.toNat < '0'.toNat) : ¬Reads radix (c :: cs) n := by
  intro hreads
  rcases hreads.isDigit c List.mem_cons_self with ⟨d, hd⟩
  unfold IsDigit at hd
  simp only [Char.reduceToNat] at h hd
  omega

theorem parseNat_eq_ok_iff (hpos : 0 < radix) (hradix : radix ≤ 36) :
    parseNat radix bound cs = .ok n ↔
      ∃ ds, (cs = ds ∨ cs = '+' :: ds) ∧ Reads radix ds n ∧ n < bound := by
  have hplus (ds : List Char) : ¬Reads radix ('+' :: ds) n := not_reads_cons (by decide)
  have hnil : ¬Reads radix [] n := fun h => h.ne_nil rfl
  unfold parseNat
  split
  . simp [hnil]
  . simp [hnil, hplus]
  . next ds hds =>
    rw [readDigits_eq_ok_iff hpos hradix (by simpa using hds)]
    simp [hplus]
  . next hne _ hds =>
    rw [readDigits_eq_ok_iff hpos hradix hne]
    grind

/--
A numeral in lowercase that begins with a zero only if this is all of it.
-/
structure IsNumeral (radix n : Nat) (cs : List Char) : Prop where
  reads : Reads radix cs n
  lowercase : ∀ c ∈ cs, ¬c.isUpper
  shortest : ∀ ds, cs = '0' :: ds → ds = []

theorem digitChar_spec (hd : d < 16) : IsDigit 16 d.digitChar d ∧ ¬d.digitChar.isUpper := by
  have hall : ∀ d : Fin 16, IsDigit 16 d.val.digitChar d.val ∧ ¬d.val.digitChar.isUpper := by
    unfold IsDigit
    decide
  exact hall ⟨d, hd⟩

theorem isNumeral_toDigits (hone : 1 < radix) (hradix : radix ≤ 16) (n : Nat) :
    IsNumeral radix n (Nat.toDigits radix n) := by
  induction n using Nat.strongRecOn with
  | ind n ih =>
    have hlt := Nat.mod_lt n (show 0 < radix by omega)
    rcases digitChar_spec (d := n % radix) (by omega) with ⟨⟨-, hdigit⟩, hlower⟩
    have hd : IsDigit radix (n % radix).digitChar (n % radix) := ⟨hlt, hdigit⟩
    by_cases hsmall : n < radix
    . rw [Nat.mod_eq_of_lt hsmall] at hd hlower
      rw [Nat.toDigits_of_lt_base hsmall]
      constructor
      . exact .one hd
      . exact List.forall_mem_singleton.mpr hlower
      . intro ds hds
        exact (List.cons.inj hds).2.symm
    . have hquot := Nat.div_lt_self (show 0 < n by omega) hone
      rcases ih _ hquot with ⟨hreads, hlowers, hshortest⟩
      rw [Nat.toDigits_of_base_le hone (by omega)]
      constructor
      . have hmore := hreads.more hd
        rw [Nat.div_add_mod' n radix] at hmore
        exact hmore
      . exact List.forall_mem_append.mpr ⟨hlowers, List.forall_mem_singleton.mpr hlower⟩
      . intro ds hds
        -- the digits in front would be a zero alone, and the number below the radix
        generalize Nat.toDigits radix (n / radix) = front at hds hreads hshortest
        cases front with
        | nil => exact absurd rfl hreads.ne_nil
        | cons c cs =>
          rw [List.cons_append, List.cons_eq_cons] at hds
          rw [hds.1] at hreads hshortest
          rw [hshortest cs rfl] at hreads
          have hzero : Reads radix ['0'] 0 := .one ⟨by omega, by decide⟩
          have hvalue := hreads.eq (by omega) (by omega) hzero
          have hpos := Nat.div_pos (Nat.le_of_not_lt hsmall) (by omega)
          omega

theorem isNumeral_text (hone : 1 < radix) (hradix : radix ≤ 16) (n : Nat) :
    IsNumeral radix n (text radix n).toList := by
  rw [text, String.toList_ofList]
  apply isNumeral_toDigits hone hradix

def IsDecimal (n : Int) (cs : List Char) : Prop :=
  if n < 0 then ∃ ds, cs = '-' :: ds ∧ IsNumeral 10 n.natAbs ds else IsNumeral 10 n.natAbs cs

theorem isDecimal_decimal (n : Int) : IsDecimal n (decimal n).toList := by
  cases n with
  | ofNat n =>
    exact isNumeral_text (by decide) (by decide) n
  | negSucc n =>
    rw [IsDecimal, if_pos (Int.negSucc_lt_zero n), decimal, String.toList_append]
    exact ⟨_, rfl, isNumeral_text (by decide) (by decide) (n + 1)⟩

theorem IsDecimal.eq {n m : Int} (hn : IsDecimal n cs) (hm : IsDecimal m cs) : n = m := by
  have hminus (ds : List Char) (k : Nat) : ¬IsNumeral 10 k ('-' :: ds) := fun h =>
    not_reads_cons (by decide) h.reads
  have hvalue {j k : Nat} {ds : List Char} (hj : IsNumeral 10 j ds) (hk : IsNumeral 10 k ds) :
      j = k := hj.reads.eq (by decide) (by decide) hk.reads
  unfold IsDecimal at hn hm
  split at hn <;> split at hm
  . rcases hn with ⟨ds, rfl, hn⟩
    rcases hm with ⟨_, heq, hm⟩
    rw [← (List.cons.inj heq).2] at hm
    have habs := hvalue hn hm
    omega
  . rcases hn with ⟨ds, rfl, -⟩
    exact absurd hm (hminus _ _)
  . rcases hm with ⟨ds, rfl, -⟩
    exact absurd hn (hminus _ _)
  . have habs := hvalue hn hm
    omega

end Numeral

end LuaScope
