/-!
This module contains the levels of log events and the formats that events are written in.
-/

namespace LuaScope

namespace Log

inductive Level where
  | error
  | warn
  | info
  | debug
  | trace
  deriving DecidableEq, Repr

def Level.rank : Level → Nat
  | .error => 1
  | .warn => 2
  | .info => 3
  | .debug => 4
  | .trace => 5

def Level.text : Level → String
  | .error => "ERROR"
  | .warn => "WARN"
  | .info => "INFO"
  | .debug => "DEBUG"
  | .trace => "TRACE"

def Level.word : Level → String
  | .error => "error"
  | .warn => "warn"
  | .info => "info"
  | .debug => "debug"
  | .trace => "trace"

inductive Format where
  | pretty
  | json
  deriving DecidableEq, Repr

def Format.text : Format → String
  | .pretty => "Pretty"
  | .json => "Json"

inductive UnknownWord where
  | level (word : String)
  | format (word : String)
  deriving DecidableEq, Repr

def UnknownWord.message : UnknownWord → String
  | .level word =>
    "unknown log level '" ++ word ++ "', expected one of error, warn, info, debug, trace"
  | .format word => "unknown log format '" ++ word ++ "', expected 'pretty' or 'json'"

def Level.parse (word : String) : Except UnknownWord Level :=
  match word.toLower with
  | "error" | "err" => .ok .error
  | "warn" | "warning" => .ok .warn
  | "info" => .ok .info
  | "debug" | "dbg" => .ok .debug
  | "trace" => .ok .trace
  | _ => .error (.level word)

def Format.parse (word : String) : Except UnknownWord Format :=
  match word.toLower with
  | "pretty" | "text" | "dev" => .ok .pretty
  | "json" | "prod" => .ok .json
  | _ => .error (.format word)

end Log

end LuaScope
