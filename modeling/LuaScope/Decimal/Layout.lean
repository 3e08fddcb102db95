import LuaScope.Decimal.Shortest
import LuaScope.Numeral

/-!
This module contains the two ways of writing a decimal, positionally and with an exponent, and the
choice between them.
-/

namespace LuaScope

namespace Decimal

/--
Where a decimal is written positionally: the powers of ten its leading digit may stand at.
-/
structure Layout where
  least : Int
  greatest : Int

def Digits.leading (d : Digits) : Int :=
  d.exponent + (Nat.toDigits 10 d.digits).length - 1

def Digits.positional (d : Digits) : String :=
  let cs := Nat.toDigits 10 d.digits
  let point := cs.length + d.exponent
  if 0 ≤ d.exponent then
    String.ofList (cs ++ List.replicate d.exponent.toNat '0')
  else if 0 < point then
    String.ofList (cs.take point.toNat ++ '.' :: cs.drop point.toNat)
  else
    String.ofList ('0' :: '.' :: (List.replicate (-point).toNat '0' ++ cs))

def Digits.scientific (d : Digits) : String :=
  let mantissa :=
    match Nat.toDigits 10 d.digits with
    | [] => []
    | [c] => [c]
    | c :: cs => c :: '.' :: cs
  String.ofList (mantissa ++ 'e' :: (Numeral.decimal d.leading).toList)

def Layout.write (l : Layout) (d : Digits) : String :=
  if l.least ≤ d.leading ∧ d.leading ≤ l.greatest then d.positional else d.scientific

end Decimal

end LuaScope
