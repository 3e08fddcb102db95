/-!
This module contains paths of files as texts of components between slashes.
-/

namespace LuaScope

namespace Path

def pieces (path : String) : List String :=
  (go path.toList []).map String.ofList
where
  go : List Char → List Char → List (List Char)
    | [], piece => [piece.reverse]
    | '/' :: cs, piece => piece.reverse :: go cs []
    | c :: cs, piece => go cs (c :: piece)

def isAbsolute (path : String) : Bool := path.toList.head? = some '/'

def components (path : String) : List String :=
  match pieces path with
  | "." :: ps => "." :: ps.filter fun p => p ≠ "" ∧ p ≠ "."
  | ps => ps.filter fun p => p ≠ "" ∧ p ≠ "."

def fileName? (path : String) : Option String :=
  match (components path).getLast? with
  | none | some "." | some ".." => none
  | some name => some name

def directory (path : String) : String :=
  let parents := (components path).dropLast
  if isAbsolute path then "/" ++ "/".intercalate parents
  else if parents.isEmpty then "."
  else "/".intercalate parents

def join (directory name : String) : String :=
  if directory.isEmpty || directory.toList.getLast? = some '/' then directory ++ name
  else directory ++ "/" ++ name

end Path

end LuaScope
