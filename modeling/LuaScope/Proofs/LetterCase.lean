/-!
This module contains what folding the case of a text does: capital letters become small ones, and
everything else stays what it is.
-/

namespace LuaScope

theorem toLower_cases (c : Char) :
    c.toLower = c ∨
      'A'.toNat ≤ c.toNat ∧ c.toNat ≤ 'Z'.toNat ∧ c.toLower.toNat = c.toNat + 32 := by
  unfold Char.toLower
  split
  . next hupper =>
    right
    have hle : c.val.toNat ≤ 'Z'.val.toNat := hupper.2
    refine ⟨hupper.1, hupper.2, ?_⟩
    show (c.val + ('a'.val - 'A'.val)).toNat = c.val.toNat + 32
    rw [UInt32.toNat_add]
    simp only [Char.reduceVal, UInt32.reduceSub, UInt32.reduceToNat] at hle ⊢
    omega
  . left
    rfl

theorem eq_of_toLower {c d : Char} (h : c.toLower = d) (hd : d.toNat < 'a'.toNat) : c = d := by
  rcases toLower_cases c with heq | ⟨hlow, -, hfolded⟩
  . rw [← heq, h]
  . rw [h] at hfolded
    simp only [Char.reduceToNat] at hlow hd
    omega

theorem eq_of_map_toLower {cs ds : List Char} (h : cs.map Char.toLower = ds)
    (hds : ∀ d ∈ ds, d.toNat < 'a'.toNat) : cs = ds := by
  induction cs generalizing ds with
  | nil => exact h
  | cons c cs ih =>
    subst h
    rw [List.map_cons, List.forall_mem_cons] at hds
    rw [List.map_cons, ← ih rfl hds.2, ← eq_of_toLower rfl hds.1]

end LuaScope
