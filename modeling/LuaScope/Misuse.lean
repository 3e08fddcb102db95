/-!
This module contains the requests that break the contract of an operation. They are mistakes of a
caller and never a property of the target.
-/

namespace LuaScope

inductive Misuse where
  /-- An alignment above one that is no power of two. -/
  | alignment
  | unreadFunction
  deriving DecidableEq, Repr

def Misuse.message : Misuse → String
  | .alignment => "alignment must be a power of two"
  | .unreadFunction => "function data must be read before it is added to the symbol store"

end LuaScope
