import LuaScope.Address

/-!
This module contains the failures that inspecting a target can end in, and their wording.
-/

namespace LuaScope

inductive FileFault where
  | missing
  | denied
  | occupied
  | notDirectory
  | isDirectory
  | other (text : String)
  deriving DecidableEq, Repr

def FileFault.message : FileFault → String
  | .missing => "No such file or directory (os error 2)"
  | .denied => "Permission denied (os error 13)"
  | .occupied => "File exists (os error 17)"
  | .notDirectory => "Not a directory (os error 20)"
  | .isDirectory => "Is a directory (os error 21)"
  | .other text => text

inductive Failure where
  | readFailed (address : Address) (length : Nat)
  | writeFailed (address : Address) (length : Nat)
  | unreadable (what : String) (address : Address)
  | unsupportedWidth (bytes : Nat)
  | processNotFound (pid : Nat)
  | unknownVersion (text : String)
  | invalidArgument (reason : String)
  | file (fault : FileFault)
  | executable (reason : String)
  deriving DecidableEq, Repr

namespace Failure

def message : Failure → String
  | .readFailed address length =>
    "Failed to read " ++ Numeral.text 10 length ++ " bytes at " ++ address.text
  | .writeFailed address length =>
    "Failed to write " ++ Numeral.text 10 length ++ " bytes at " ++ address.text
  | .unreadable what address => "Failed to read " ++ what ++ " at " ++ address.text
  | .unsupportedWidth bytes =>
    "Unsupported pointer width: " ++ Numeral.text 10 bytes ++ " bytes"
  | .processNotFound pid => "Process not found: PID " ++ Numeral.text 10 pid
  | .unknownVersion text => "Unknown Lua version: " ++ text
  | .invalidArgument reason => "Invalid argument: " ++ reason
  | .file fault => "IO error: " ++ fault.message
  | .executable reason => "Object file error: " ++ reason

end Failure

end LuaScope
