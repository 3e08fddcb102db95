import LuaScope.Executable
import LuaScope.Program
import Std.Time.DateTime

/-!
This module contains the program as it runs on a machine with a file system, an environment and
processes.

Files can be read from their start only, and no process has anything at the start of its memory. So
a process that runs is found and the width of its pointers is known, but its bytes are out of reach
and decoding them comes to errors. Images are read in full.
-/

namespace LuaScope

namespace Machine

def fault : IO.Error → FileFault
  | .noFileOrDirectory _ _ _ => .missing
  | .permissionDenied _ _ _ => .denied
  | .alreadyExists _ _ _ => .occupied
  | .inappropriateType _ 20 _ => .notDirectory
  | .inappropriateType _ 21 _ => .isDirectory
  | e => .other (toString e)

def attempt {α : Type} (action : IO α) : IO (Except FileFault α) := do
  match ← action.toBaseIO with
  | .ok a => return .ok a
  | .error e => return .error (fault e)

def isDirectory (path : String) : IO Bool := do
  try return (← (← IO.FS.realPath path).metadata).type == .dir
  catch _ => return false

def touchFile (path : String) : IO Unit := do
  let _ ← IO.FS.Handle.mk path .append

def appendLine (path line : String) : IO Unit := do
  (← IO.FS.Handle.mk path .append).putStrLn line

def twoDigits (n : Int) : String :=
  let text := Numeral.decimal n
  if text.length < 2 then "0" ++ text else text

def date (t : Std.Time.PlainDateTime) : String :=
  Numeral.decimal t.date.year.toInt ++ "-" ++ twoDigits t.date.month.val ++ "-"
    ++ twoDigits t.date.day.val

def timeOfDay (t : Std.Time.PlainDateTime) : String :=
  let fraction := Numeral.decimal t.time.nanosecond.val
  let zeros := String.ofList (List.replicate (9 - fraction.length) '0')
  twoDigits t.time.hour.val ++ ":" ++ twoDigits t.time.minute.val ++ ":"
    ++ twoDigits t.time.second.val ++ "." ++ zeros ++ fraction

def clock : IO Std.Time.PlainDateTime := do
  let now ← Std.Time.Timestamp.now
  return .ofWallTime (now.toWallTime .zero)

def today : IO String := do
  return date (← clock)

def now : IO String := do
  let t ← clock
  return date t ++ "T" ++ timeOfDay t ++ "+00:00"

def failure (pid : Nat) : FileFault → Failure
  | .missing => .processNotFound pid
  | other => .file other

def header (path : String) : IO (List UInt8) := do
  let bytes ← (← IO.FS.Handle.mk path .read).read 64
  return bytes.toList

def attach (pid : Nat) : IO (Except Failure (LiveProcess IO)) := do
  match ← attempt (header ("/proc/" ++ Numeral.text 10 pid ++ "/exe")) with
  | .error e => return .error (failure pid e)
  | .ok bytes =>
    match Executable.pointerWidth bytes with
    | .error e => return .error e
    | .ok width =>
      let read (_ : Address) (length : Nat) : IO (Option (List UInt8)) :=
        return if length = 0 then some [] else none
      return .ok ⟨pid, ⟨width, .little⟩, read⟩

def host : Host IO where
  lookupVariable name := IO.getEnv name
  isDirectory := isDirectory
  createDirectories path := attempt (IO.FS.createDirAll path)
  contentsOf path := attempt do return (← IO.FS.readBinFile path).data
  touchFile := touchFile
  appendLine := appendLine
  today := today
  now := now
  attach := attach
  out line := IO.println line
  err line := IO.eprintln line

end Machine

end LuaScope

def main (args : List String) : IO UInt32 :=
  LuaScope.Program.run LuaScope.Machine.host args
