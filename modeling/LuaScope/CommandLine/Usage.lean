/-!
This module contains the ways in which a command line can be refused. Asking for help or for the
version is one of them, since nothing else is done then.
-/

namespace LuaScope

inductive UsageFault where
  | valueValidation (message : String)
  | missingRequired
  | unknownArgument
  | invalidSubcommand
  | invalidValue
  | tooManyValues
  | missingSubcommand
  | argumentConflict
  | displayHelp
  | displayVersion
  | displayHelpOnMissing
  deriving DecidableEq, Repr

namespace UsageFault

def isRequest : UsageFault → Bool
  | .displayHelp | .displayVersion => true
  | _ => false

def message : UsageFault → String
  | .valueValidation message => "invalid value: " ++ message
  | .missingRequired => "a required argument is missing"
  | .unknownArgument => "unexpected argument"
  | .invalidSubcommand => "unrecognized subcommand"
  | .invalidValue => "a value is required"
  | .tooManyValues => "unexpected value"
  | .missingSubcommand => "a subcommand is required"
  | .argumentConflict => "an argument cannot be used with another one"
  | .displayHelp | .displayHelpOnMissing =>
    "Usage: luaprobe [OPTIONS] <value|values|string|function|help>"
  | .displayVersion => "luaprobe 0.0.0"

end UsageFault

end LuaScope
