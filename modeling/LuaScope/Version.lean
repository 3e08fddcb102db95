import LuaScope.Failure
import LuaScope.Text.Blank

/-!
This module contains the versions of the Lua runtime. The version of a target decides how its type
tags are numbered and how its objects are laid out.
-/

namespace LuaScope

inductive Version where
  | v51
  | v52
  | v53
  | v54
  deriving DecidableEq, Repr

namespace Version

instance : Inhabited Version := ⟨.v53⟩

def hasVariantTags : Version → Bool
  | .v51 => false
  | _ => true

def hasByteTag : Version → Bool
  | .v54 => true
  | _ => false

def text : Version → String
  | .v51 => "5.1"
  | .v52 => "5.2"
  | .v53 => "5.3"
  | .v54 => "5.4"

def dropName : List Char → List Char
  | 'l' :: 'u' :: 'a' :: cs => dropName cs
  | cs => cs

def isSeparator (c : Char) : Bool :=
  c == '-' || c == ' '

def ofNumber? : List Char → Option Version
  | ['5', '.', '1'] | ['5', '1'] => some .v51
  | ['5', '.', '2'] | ['5', '2'] => some .v52
  | ['5', '.', '3'] | ['5', '3'] => some .v53
  | ['5', '.', '4'] | ['5', '4'] => some .v54
  | _ => none

/--
Reads a version in any letter case and between white space: copies of `lua`, then hyphens and
spaces, then the number with or without its point.
-/
def parse? (s : String) : Option Version :=
  let lowered := (trimBlank s.toList).map Char.toLower
  ofNumber? ((dropName lowered).dropWhile isSeparator)

def parse (s : String) : Except Failure Version :=
  match parse? s with
  | some v => .ok v
  | none => .error (.unknownVersion s)

end Version

end LuaScope
