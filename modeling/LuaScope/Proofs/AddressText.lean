import LuaScope.Address.Parse
import LuaScope.Proofs.LetterCase
import LuaScope.Proofs.Numerals

/-!
This module contains the proof that an address is read from the texts that spell one and from no
others: a numeral of its radix below the end of the address space, with underscores anywhere in it.
-/

namespace LuaScope

namespace Numeral

variable {radix n d : Nat} {c : Char} {cs : List Char}

theorem IsDigit.not_isBlank (h : IsDigit 16 c d) : ¬isBlank c := by
  unfold IsDigit at h
  simp only [Char.reduceToNat] at h
  apply not_isBlank_of_lt <;> omega

theorem IsDigit.of_toLower (hradix : radix ≤ 36) (h : IsDigit radix c.toLower d) :
    IsDigit radix c d := by
  rcases toLower_cases c with heq | ⟨hlow, hhigh, hfolded⟩
  . rwa [heq] at h
  . unfold IsDigit at *
    simp only [Char.reduceToNat] at *
    omega

theorem Reads.of_map_toLower (hradix : radix ≤ 36) (h : Reads radix (cs.map Char.toLower) n) :
    Reads radix cs n := by
  generalize hds : cs.map Char.toLower = ds at h
  induction h generalizing cs with
  | one hd =>
    rcases List.map_eq_singleton_iff.mp hds with ⟨c, rfl, rfl⟩
    exact .one (hd.of_toLower hradix)
  | more _ hd ih =>
    rcases List.map_eq_append_iff.mp hds with ⟨front, back, rfl, hfront, hback⟩
    rcases List.map_eq_singleton_iff.mp hback with ⟨c, rfl, rfl⟩
    exact .more (ih hfront) (hd.of_toLower hradix)

theorem Reads.not_isBlank (h : Reads 16 (cs.filter (· != '_')) n) : ∀ c ∈ cs, ¬isBlank c := by
  intro c hc
  by_cases hunderscore : c = '_'
  . rw [hunderscore]
    exact not_isBlank_of_lt (by decide) (by decide)
  . have hkept : c ∈ cs.filter (· != '_') :=
      List.mem_filter.mpr ⟨hc, bne_iff_ne.mpr hunderscore⟩
    rcases h.isDigit c hkept with ⟨d, hd⟩
    exact hd.not_isBlank

end Numeral

namespace Address

variable {s : String} {a : Address} {radix : Nat} {cs ds : List Char}

inductive HasRadix : List Char → Nat → List Char → Prop where
  | hexadecimal {x : Char} {cs : List Char} (hx : x = 'x' ∨ x = 'X') :
    HasRadix ('0' :: x :: cs) 16 cs
  | decimal {cs : List Char} (hcs : ∀ x ds, cs = '0' :: x :: ds → x ≠ 'x' ∧ x ≠ 'X') :
    HasRadix cs 10 cs

theorem hasRadix_splitRadix (cs : List Char) :
    HasRadix cs (splitRadix cs).1 (splitRadix cs).2 := by
  unfold splitRadix
  split
  . exact .hexadecimal (Or.inl rfl)
  . exact .hexadecimal (Or.inr rfl)
  . next hlower hupper =>
    apply HasRadix.decimal
    rintro x ds rfl
    exact ⟨fun hx => hlower ds (hx ▸ rfl), fun hx => hupper ds (hx ▸ rfl)⟩

theorem HasRadix.splitRadix_eq (h : HasRadix cs radix ds) : splitRadix cs = (radix, ds) := by
  cases h with
  | hexadecimal hx => rcases hx with rfl | rfl <;> rfl
  | decimal hcs =>
    unfold splitRadix
    split
    . exact absurd rfl (hcs _ _ rfl).1
    . exact absurd rfl (hcs _ _ rfl).2
    . rfl

theorem HasRadix.radix_pos (h : HasRadix cs radix ds) : 0 < radix := by
  cases h <;> decide

theorem HasRadix.radix_le (h : HasRadix cs radix ds) : radix ≤ 36 := by
  cases h <;> decide

/--
The texts of an address: between white space, and behind `0x` or as they are, a numeral with
underscores anywhere in it and perhaps a plus sign.
-/
def Spelled (a : Address) (s : String) : Prop :=
  ∃ cs radix body digits, Trims s.toList cs ∧ HasRadix cs radix body ∧
    (body.filter (· != '_') = digits ∨ body.filter (· != '_') = '+' :: digits) ∧
    Numeral.Reads radix digits a.toNat

theorem ofNat_eq_iff {n : Nat} (h : n < UInt64.size) : ofNat n = a ↔ n = a.toNat := by
  have hvalue : (ofNat n).toNat = n := UInt64.toNat_ofNat_of_lt h
  rw [← toNat_inj, hvalue]

theorem parse_of_trims (h : Trims s.toList cs) (hradix : HasRadix cs radix ds) :
    (∀ a, parse s = .ok a ↔
      Numeral.parseNat radix UInt64.size (ds.filter (· != '_')) = .ok a.toNat) ∧
    ∀ i, parse s = .error i → i.text = s := by
  rw [← trimBlank_eq_iff] at h
  unfold parse
  rw [h, hradix.splitRadix_eq]
  dsimp only
  generalize ds.filter (· != '_') = digits
  cases hread : Numeral.parseNat radix UInt64.size digits with
  | ok n =>
    rcases (Numeral.parseNat_eq_ok_iff hradix.radix_pos hradix.radix_le).mp hread with
      ⟨-, -, -, hlt⟩
    simp [ofNat_eq_iff hlt]
  | error fault =>
    refine ⟨by simp, ?_⟩
    rintro i ⟨⟩
    rfl

theorem parse_eq_ok_iff : parse s = .ok a ↔ a.Spelled s := by
  constructor
  . intro h
    have hradix := hasRadix_splitRadix (trimBlank s.toList)
    have hread := (parse_of_trims (trims_trimBlank s.toList) hradix).1 a
    rw [hread, Numeral.parseNat_eq_ok_iff hradix.radix_pos hradix.radix_le] at h
    rcases h with ⟨digits, hdigits, hreads, -⟩
    exact ⟨_, _, _, digits, trims_trimBlank s.toList, hradix, hdigits, hreads⟩
  . rintro ⟨cs, radix, body, digits, htrims, hradix, hdigits, hreads⟩
    rw [(parse_of_trims htrims hradix).1,
      Numeral.parseNat_eq_ok_iff hradix.radix_pos hradix.radix_le]
    exact ⟨digits, hdigits, hreads, a.toNat_lt⟩

/--
The second text is the first one, which has small letters, in any case and with underscores anywhere
behind its first two characters.
-/
def Respells (cs ds : List Char) : Prop :=
  (ds.take 2 ++ (ds.drop 2).filter (· != '_')).map Char.toLower = cs

instance (cs ds : List Char) : Decidable (Respells cs ds) :=
  inferInstanceAs (Decidable (_ = _))

theorem toList_text (a : Address) : a.text.toList = '0' :: 'x' :: Nat.toDigits 16 a.toNat := by
  simp [text, hex, Numeral.hex, Numeral.text]

theorem eq_of_toLower_eq_x {c : Char} (h : c.toLower = 'x') : c = 'x' ∨ c = 'X' := by
  rcases toLower_cases c with heq | ⟨-, -, hfolded⟩
  . exact Or.inl (heq ▸ h)
  . right
    rw [h] at hfolded
    apply Char.toNat_inj.mp
    simp only [Char.reduceToNat] at hfolded ⊢
    omega

theorem spelled_of_respells (h : Respells a.text.toList s.toList) : a.Spelled s := by
  rw [toList_text] at h
  have hdigits := (Numeral.isNumeral_toDigits (by decide) (Nat.le_refl 16) a.toNat).reads
  rcases hs : s.toList with _ | ⟨zero, _ | ⟨x, body⟩⟩
  . simp [hs, Respells] at h
  . simp [hs, Respells] at h
  . rw [hs, Respells] at h
    simp only [List.take_succ_cons, List.take_zero, List.drop_succ_cons, List.drop_zero,
      List.cons_append, List.nil_append, List.map_cons, List.cons_eq_cons] at h
    rcases h with ⟨hzero, hx, hbody⟩
    have hzero := eq_of_toLower hzero (by decide)
    have hx := eq_of_toLower_eq_x hx
    subst hzero
    rw [← hbody] at hdigits
    have hreads := hdigits.of_map_toLower (by decide)
    refine ⟨_, 16, body, _, ?_, .hexadecimal hx, Or.inl rfl, hreads⟩
    rw [hs]
    apply trims_self
    rw [List.forall_mem_cons, List.forall_mem_cons]
    refine ⟨not_isBlank_of_lt (by decide) (by decide), ?_, ?_⟩
    . rcases hx with rfl | rfl <;> exact not_isBlank_of_lt (by decide) (by decide)
    . exact hreads.not_isBlank

theorem parse_spellings (s : String) :
    (∀ a, parse s = .ok a ↔ a.Spelled s) ∧
    ((∀ a : Address, ¬a.Spelled s) ↔ ∃ fault, parse s = .error ⟨s, fault⟩) ∧
    ∀ a : Address, Respells a.text.toList s.toList → parse s = .ok a := by
  refine ⟨fun a => parse_eq_ok_iff, ?_, fun a h => parse_eq_ok_iff.mpr (spelled_of_respells h)⟩
  constructor
  . intro h
    cases hread : parse s with
    | ok a => exact absurd (parse_eq_ok_iff.mp hread) (h a)
    | error i =>
      have htext := (parse_of_trims (trims_trimBlank _) (hasRadix_splitRadix _)).2 i hread
      rw [← htext]
      exact ⟨i.fault, rfl⟩
  . rintro ⟨fault, hread⟩ a h
    rw [← parse_eq_ok_iff, hread] at h
    contradiction

theorem parse_greatest_in_capitals :
    let greatest : Address := ⟨0xFFFFFFFFFFFFFFFF⟩
    let text := "0XFFFF_FFFF_FFFF_FFFF_"
    Respells greatest.text.toList text.toList ∧ parse text = .ok greatest ∧
      ∀ a : Address, ¬a.Spelled "0x1_0000_0000_0000_0000" := by
  intro greatest text
  have h : Respells greatest.text.toList text.toList := by decide +kernel
  refine ⟨h, (parse_spellings text).2.2 greatest h, ?_⟩
  rw [(parse_spellings _).2.1]
  exact ⟨.tooLarge, by decide +kernel⟩

end Address

end LuaScope
