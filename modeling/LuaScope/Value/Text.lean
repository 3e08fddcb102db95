import LuaScope.Decimal.Layout
import LuaScope.Value

/-!
This module contains the text of values.
-/

namespace LuaScope

/--
Floating point numbers are written positionally from a ten-thousandth up to below `10 ^ 15`.
-/
def floatLayout : Decimal.Layout := ⟨-4, 14⟩

def Double.text (x : Double) : String :=
  if x.isNaN then "nan"
  else
    let sign := if x.isNegative then "-" else ""
    if x.isInfinite then sign ++ "inf"
    else if x.isZero then sign ++ "0"
    else sign ++ floatLayout.write (Decimal.shortest x.magnitude)

def integerText (radix : Nat) (n : Int) : String :=
  if radix = 16 then Numeral.hex (Int64.ofInt n).toUInt64.toNat else Numeral.decimal n

def Payload.text (radix : Nat) : Payload → String
  | .error message => message
  | .nil => "nil"
  | .boolean b => if b then "true" else "false"
  | .lightUserData pointer => pointer.text
  | .number x .integer => integerText radix x.truncate
  | .number x .float => x.text
  | .string text _ _ => "\"" ++ text ++ "\""
  | .object _ target => target.text

def Value.text (v : Value) (radix : Nat) : String := v.payload.text radix

def Value.line (v : Value) (radix : Nat) : String :=
  if v.isError then "<error> " ++ v.text radix else v.typeName ++ " = " ++ v.text radix

end LuaScope
