import LuaScope.Failure
import LuaScope.Path

/-!
This module contains trees of directories and files, for runs of the program that must not touch a
disk. There are no links in them and no permissions.
-/

namespace LuaScope

inductive FileEntry where
  | directory
  | file (content : Array UInt8)
  deriving DecidableEq, Repr

structure FileTree where
  /-- The entries by their components from the root on. The root itself is none of them. -/
  entries : List (List String × FileEntry)
  current : List String
  deriving Repr

namespace FileTree

def entry? (t : FileTree) (location : List String) : Option FileEntry :=
  if location.isEmpty then some .directory else t.entries.lookup location

def put (t : FileTree) (location : List String) (e : FileEntry) : FileTree :=
  { t with entries := (location, e) :: t.entries.filter fun (l, _) => l ≠ location }

def follow (t : FileTree) : List String → List String → Except FileFault (List String)
  | location, [] => .ok location
  | location, piece :: pieces =>
    match t.entry? location with
    | none => .error .missing
    | some (.file _) => .error .notDirectory
    | some .directory =>
      if piece = "" ∨ piece = "." then t.follow location pieces
      else if piece = ".." then t.follow location.dropLast pieces
      else t.follow (location ++ [piece]) pieces

/--
Where a path leads to. Its last component may be missing.
-/
def locate (t : FileTree) (path : String) : Except FileFault (List String) :=
  if path.isEmpty then .error .missing
  else t.follow (if Path.isAbsolute path then [] else t.current) (Path.pieces path)

def isDirectory (t : FileTree) (path : String) : Bool :=
  match t.locate path with
  | .ok location => t.entry? location == some .directory
  | .error _ => false

def createDirectory (t : FileTree) (path : String) : Except FileFault FileTree := do
  let location ← t.locate path
  match t.entry? location with
  | some _ => .error .occupied
  | none => .ok (t.put location .directory)

def createDirectories (t : FileTree) (path : String) : Except FileFault FileTree :=
  go (Path.components path).length t path
where
  go : Nat → FileTree → String → Except FileFault FileTree
    | 0, t, path => accept t path (t.createDirectory path)
    | depth + 1, t, path =>
      match t.createDirectory path with
      | .error .missing => do
        let t ← go depth t (Path.directory path)
        accept t path (t.createDirectory path)
      | answer => accept t path answer
  accept (t : FileTree) (path : String) :
      Except FileFault FileTree → Except FileFault FileTree
    | .ok created => .ok created
    | .error fault => if t.isDirectory path then .ok t else .error fault

def contentsOf (t : FileTree) (path : String) : Except FileFault (Array UInt8) := do
  let location ← t.locate path
  match t.entry? location with
  | none => .error .missing
  | some .directory => .error .isDirectory
  | some (.file content) => .ok content

def append (t : FileTree) (path : String) (bytes : Array UInt8) : FileTree :=
  match t.locate path with
  | .error _ => t
  | .ok location =>
    match t.entry? location with
    | none => t.put location (.file bytes)
    | some .directory => t
    | some (.file content) => t.put location (.file (content ++ bytes))

end FileTree

end LuaScope
