import LuaScope.Host
import LuaScope.Log.Filter
import LuaScope.Log.Report
import LuaScope.Path
import LuaScope.Text.Blank

/-!
This module contains the setting up of logging. Events are written to the standard error output and,
if that is asked for, to a file, which is a new one every day.
-/

namespace LuaScope

namespace Log

inductive LoggingFailure where
  | invalidFormat (word : UnknownWord)
  | invalidFilter (directive : String) (fault : FilterFault)
  | invalidFile (path : String)
  | alreadyInitialized
  | file (fault : FileFault)
  deriving DecidableEq, Repr

def LoggingFailure.message : LoggingFailure → String
  | .invalidFormat word => "Invalid log format: " ++ word.message
  | .invalidFilter directive fault =>
    "Invalid log filter: " ++ directive ++ ": " ++ fault.message
  | .invalidFile path => "Invalid log file path: " ++ path
  | .alreadyInitialized =>
    "Failed to initialize logging: a global default trace dispatcher has already been set"
  | .file fault => "File logging error: " ++ fault.message

structure Environment where
  filter : Option String
  format : Option String
  file : Option String
  deriving DecidableEq, Repr

def Environment.read {m : Type → Type} [Monad m] (host : Host m) : m Environment := do
  return {
    filter := ← host.lookupVariable "RUST_LOG"
    format := ← host.lookupVariable "LUAPROBE_LOG_FORMAT"
    file := ← host.lookupVariable "LUAPROBE_LOG_FILE" }

structure Settings where
  level : Option Level
  format : Format
  /-- A file, or a directory for one. -/
  file : Option String
  deriving DecidableEq, Repr

def Settings.ofEnvironment (e : Environment) : Except LoggingFailure Settings := do
  let format ←
    match e.format with
    | none => pure Format.pretty
    | some word => (Format.parse word).mapError .invalidFormat
  return ⟨none, format, e.file.filter (· ≠ "")⟩

/--
The filter to use: the level if there is one, else what the environment says, else warnings.
-/
def directive (level : Option Level) (filter : Option String) : String :=
  match level with
  | some level => level.word
  | none =>
    match (filter.map fun text => trimBlank text.toList).filter (!·.isEmpty) with
    | some cs => String.ofList cs
    | none => Level.warn.word

structure LogFile where
  path : String
  rotates : Bool
  deriving DecidableEq, Repr

namespace LogFile

def resolve (path : String) (isDirectory : Bool) (today : String) :
    Except LoggingFailure LogFile :=
  if isDirectory then .ok ⟨Path.join path (today ++ "-luaprobe.log"), false⟩
  else if (Path.fileName? path).isNone then .error (.invalidFile path)
  else .ok ⟨path, true⟩

def current (f : LogFile) (today : String) : String :=
  let name := (Path.fileName? f.path).getD ""
  Path.join (Path.directory f.path) (if f.rotates then name ++ "." ++ today else name)

end LogFile

structure Logger where
  filter : Filter
  format : Format
  file : Option LogFile
  deriving DecidableEq, Repr

namespace Logger

variable {m : Type → Type} [Monad m]

def emit (host : Host m) (l : Logger) (e : Event) : m Unit := do
  if l.filter.passes e then
    let line := e.line l.format (← host.now)
    host.err line
    if let some file := l.file then
      host.appendLine (file.current (← host.today)) line

def report (host : Host m) (l : Logger) (n : Notice) : m Unit :=
  l.emit host n.event

def openFile (host : Host m) (path : String) : m (Except LoggingFailure LogFile) := do
  let today ← host.today
  match LogFile.resolve path (← host.isDirectory path) today with
  | .error failure => return .error failure
  | .ok file =>
    match ← host.createDirectories (Path.directory file.path) with
    | .error fault => return .error (.file fault)
    | .ok () =>
      host.touchFile (file.current today)
      return .ok file

def openFile? (host : Host m) (path : Option String) :
    m (Except LoggingFailure (Option LogFile)) := do
  match path with
  | none => return .ok none
  | some path => return (← openFile host path).map some

/--
Sets logging up. The filter is read first, then the file is opened, and it is found out last whether
all this was done before.
-/
def start (host : Host m) (initialized : Bool) (filter : Option String) (s : Settings) :
    m (Except LoggingFailure Logger) := do
  let directive := directive s.level filter
  match Filter.parse directive with
  | .error fault => return .error (.invalidFilter directive fault)
  | .ok parsed =>
    match ← openFile? host s.file with
    | .error failure => return .error failure
    | .ok file =>
      if initialized then return .error .alreadyInitialized
      let logger : Logger := ⟨parsed, s.format, file⟩
      logger.report host (.loggingInitialized directive s.format (file.map LogFile.path))
      return .ok logger

end Logger

end Log

end LuaScope
