/-!
This module contains sets of characters that are given by ranges of code points.
-/

namespace LuaScope

/--
Ranges of code points, first and last included, in ascending order.
-/
abbrev CodeRanges := List (Nat × Nat)

namespace CodeRanges

def contains (rs : CodeRanges) (c : Char) : Bool :=
  rs.any fun (first, last) => first ≤ c.toNat && c.toNat ≤ last

theorem contains_iff (rs : CodeRanges) (c : Char) :
    rs.contains c ↔ ∃ r ∈ rs, r.1 ≤ c.toNat ∧ c.toNat ≤ r.2 := by
  simp [contains]

end CodeRanges

end LuaScope
