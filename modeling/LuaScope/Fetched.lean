/-!
This module contains the outcome of a lookup in target memory that is made only when it is needed.
-/

namespace LuaScope

inductive Fetched (α : Type) where
  | unread
  | found (value : α)
  /-- The lookup was made and the target holds no value. -/
  | missing
  /-- The lookup was made and the target could not be read. -/
  | failed
  deriving DecidableEq, Repr

namespace Fetched

variable {α : Type}

def isResolved : Fetched α → Bool
  | .unread => false
  | _ => true

def value? : Fetched α → Option α
  | .found value => some value
  | _ => none

theorem value?_eq_some_iff {x : Fetched α} {value : α} :
    x.value? = some value ↔ x = .found value := by
  cases x <;> simp [value?]

end Fetched

end LuaScope
