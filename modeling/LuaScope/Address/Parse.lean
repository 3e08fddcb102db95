import LuaScope.Address
import LuaScope.Text.Blank

/-!
This module contains the reading of addresses that people write.
-/

namespace LuaScope

namespace Address

structure Invalid where
  text : String
  fault : Numeral.Fault
  deriving DecidableEq, Repr

def Invalid.message (i : Invalid) : String :=
  "invalid address '" ++ i.text ++ "': " ++ i.fault.message

def splitRadix : List Char → Nat × List Char
  | '0' :: 'x' :: cs | '0' :: 'X' :: cs => (16, cs)
  | cs => (10, cs)

/--
Reads an address between white space: hexadecimal digits behind `0x`, decimal ones otherwise, and
underscores anywhere among them.
-/
def parse (s : String) : Except Invalid Address :=
  let (radix, digits) := splitRadix (trimBlank s.toList)
  match Numeral.parseNat radix UInt64.size (digits.filter (· != '_')) with
  | .ok n => .ok (ofNat n)
  | .error fault => .error ⟨s, fault⟩

end Address

end LuaScope
