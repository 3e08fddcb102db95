/-!
This module contains the text of whole numbers: writing them in a radix and reading them back
under a bound.
-/

namespace LuaScope

namespace Numeral

def text (radix n : Nat) : String :=
  String.ofList (Nat.toDigits radix n)

def decimal : Int → String
  | .ofNat n => text 10 n
  | .negSucc n => "-" ++ text 10 (n + 1)

def hex (n : Nat) : String :=
  text 16 n

def paddedHex (width n : Nat) : String :=
  let digits := Nat.toDigits 16 n
  String.ofList ('0' :: 'x' :: (List.replicate (width - 2 - digits.length) '0' ++ digits))

inductive Fault where
  | empty
  | invalidDigit
  | tooLarge
  | tooSmall
  deriving DecidableEq, Repr

def Fault.message : Fault → String
  | .empty => "cannot parse integer from empty string"
  | .invalidDigit => "invalid digit found in string"
  | .tooLarge => "number too large to fit in target type"
  | .tooSmall => "number too small to fit in target type"

def digit? (radix : Nat) (c : Char) : Option Nat :=
  let value :=
    if '0' ≤ c ∧ c ≤ '9' then c.toNat - '0'.toNat
    else if 'a' ≤ c ∧ c ≤ 'z' then c.toNat - 'a'.toNat + 10
    else if 'A' ≤ c ∧ c ≤ 'Z' then c.toNat - 'A'.toNat + 10
    else radix
  if value < radix then some value else none

/--
Reads digits behind the value `acc` of those before them. The first digit that is invalid or that
takes the value to the bound decides the fault.
-/
def readDigits (radix bound acc : Nat) : List Char → Except Fault Nat
  | [] => .ok acc
  | c :: cs =>
    match digit? radix c with
    | none => .error .invalidDigit
    | some d =>
      if acc * radix + d < bound then
        readDigits radix bound (acc * radix + d) cs
      else
        .error .tooLarge

/--
Reads a natural number below `bound`: an optional plus sign, then at least one digit.
-/
def parseNat (radix bound : Nat) (cs : List Char) : Except Fault Nat :=
  match cs with
  | [] => .error .empty
  | ['+'] => .error .invalidDigit
  | '+' :: ds => readDigits radix bound 0 ds
  | ds => readDigits radix bound 0 ds

def parseInt (bound : Nat) (cs : List Char) : Except Fault Int :=
  match cs with
  | ['-'] => .error .invalidDigit
  | '-' :: ds =>
    match readDigits 10 (bound + 1) 0 ds with
    | .ok n => .ok (-n)
    | .error .tooLarge => .error .tooSmall
    | .error fault => .error fault
  | ds => (parseNat 10 bound ds).map Int.ofNat

end Numeral

end LuaScope
