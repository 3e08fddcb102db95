import LuaScope.Address

/-!
This module contains what a debug build makes sure of before it goes on: that rounding is asked for
an alignment, that what is taken out of a sequence lies in it, and that no size is taken from a
smaller one. A computation ends at the first check that does not hold.
-/

namespace LuaScope

inductive Check where
  | alignment (n : UInt64)
  | element (position size : Nat)
  | slice (start stop size : Nat)
  | difference (minuend subtrahend : Nat)
  /-- A loop that may go round a number of times has all that it wanted by then. -/
  | finished (wanted reached : Nat)
  deriving DecidableEq, Repr

namespace Check

def Holds : Check → Prop
  | .alignment n => Address.isAlignment n
  | .element position size => position < size
  | .slice start stop size => start ≤ stop ∧ stop ≤ size
  | .difference minuend subtrahend => subtrahend ≤ minuend
  | .finished wanted reached => wanted ≤ reached

instance (c : Check) : Decidable c.Holds :=
  match c with
  | .alignment n => inferInstanceAs (Decidable (Address.isAlignment n = true))
  | .element position size => inferInstanceAs (Decidable (position < size))
  | .slice start stop size => inferInstanceAs (Decidable (start ≤ stop ∧ stop ≤ size))
  | .difference minuend subtrahend => inferInstanceAs (Decidable (subtrahend ≤ minuend))
  | .finished wanted reached => inferInstanceAs (Decidable (wanted ≤ reached))

def pass (c : Check) : Except Check Unit :=
  if c.Holds then .ok () else .error c

end Check

end LuaScope
