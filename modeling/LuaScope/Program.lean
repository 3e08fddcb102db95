import LuaScope.Command
import LuaScope.Log.Logger

/-!
This module contains the program as a whole, from its arguments to its exit code.
-/

namespace LuaScope

namespace Program

variable {m : Type → Type} [Monad m]

def startLogging (host : Host m) (i : Invocation) : m (Except Log.LoggingFailure Log.Logger) := do
  let environment ← Log.Environment.read host
  match Log.Settings.ofEnvironment environment with
  | .error failure => return .error failure
  | .ok s =>
    let s := { s with level := i.level, format := i.format.getD s.format }
    Log.Logger.start host false environment.filter s

/--
Runs the program and returns its exit code: 2 for a command line that is refused, 1 for a failure.
-/
def run (host : Host m) (args : List String) : m UInt32 := do
  match CommandLine.parse args with
  | .error fault =>
    if fault.isRequest then
      host.out fault.message
      return 0
    else
      host.err ("error: " ++ fault.message)
      return 2
  | .ok i =>
    match ← startLogging host i with
    | .error failure =>
      host.err ("Failed to initialize logging: " ++ failure.message)
      return 1
    | .ok logger =>
      match ← Command.run host (logger.report host) i with
      | .ok () => return 0
      | .error failure =>
        logger.report host (.commandFailed failure.message)
        host.err ("Error: " ++ failure.message)
        return 1

end Program

end LuaScope
