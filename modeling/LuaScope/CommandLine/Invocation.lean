import LuaScope.Address.Parse
import LuaScope.CommandLine.Grammar
import LuaScope.Decoder
import LuaScope.Failure
import LuaScope.Log.Level

/-!
This module contains the command line of the program and what it asks for.
-/

namespace LuaScope

inductive Origin where
  | process (pid : Nat)
  | snapshot (path : String) (base : Address) (width : Nat)
  deriving DecidableEq, Repr

inductive Request where
  | value (address : Address)
  | values (address : Address) (count : Nat)
  | string (address : Address)
  | function (closure state : Address)
  deriving DecidableEq, Repr

structure Invocation where
  origin : Origin
  version : Version
  maxString : Nat
  hex : Bool
  level : Option Log.Level
  format : Option Log.Format
  request : Request
  deriving DecidableEq, Repr

namespace CommandLine

structure General where
  pid : Option Nat
  snapshot : Option String
  base : Option Address
  pointerWidth : Nat
  version : Version
  maxString : Nat
  hex : Bool
  level : Option Log.Level
  format : Option Log.Format

def General.default : General :=
  { pid := none
    snapshot := none
    base := none
    pointerWidth := 8
    version := .v53
    maxString := defaultMaxString
    hex := false
    level := none
    format := none }

structure Operands where
  address : Option Address
  count : Nat
  state : Address

def Operands.default : Operands := ⟨none, 1, .null⟩

def address (text : String) : Except UsageFault Address :=
  (Address.parse text).mapError fun i => .valueValidation i.message

def length (text : String) : Except UsageFault Nat :=
  (Numeral.parseNat 10 UInt64.size text.toList).mapError fun f => .valueValidation f.message

/--
A number from zero to `greatest`. It is read as a signed one before its range is looked at.
-/
def bounded (greatest : Nat) (text : String) : Except UsageFault Nat :=
  match Numeral.parseInt 0x8000000000000000 text.toList with
  | .error fault => .error (.valueValidation fault.message)
  | .ok n =>
    if 0 ≤ n ∧ n ≤ greatest then .ok n.toNat
    else
      let range := " is not in 0..=" ++ Numeral.text 10 greatest
      .error (.valueValidation (Numeral.decimal n ++ range))

def path (text : String) : Except UsageFault String :=
  if text.isEmpty then .error .invalidValue else .ok text

def version (text : String) : Except UsageFault Version :=
  (Version.parse text).mapError fun f => .valueValidation f.message

def level (text : String) : Except UsageFault Log.Level :=
  (Log.Level.parse text).mapError fun w => .valueValidation w.message

def format (text : String) : Except UsageFault Log.Format :=
  (Log.Format.parse text).mapError fun w => .valueValidation w.message

def help {σ : Type} : Opt σ := ⟨"help", some 'h', .stop .displayHelp⟩

def general : Grammar General :=
  { options := [
      ⟨"pid", none, .value fun g s => return { g with pid := ← bounded (UInt32.size - 1) s }⟩,
      ⟨"snapshot", none, .value fun g s => return { g with snapshot := ← path s }⟩,
      ⟨"base", none, .value fun g s => return { g with base := ← address s }⟩,
      ⟨"pointer-width", none, .value fun g s => return { g with pointerWidth := ← bounded 255 s }⟩,
      ⟨"lua-version", none, .value fun g s => return { g with version := ← version s }⟩,
      ⟨"max-string", none, .value fun g s => return { g with maxString := ← length s }⟩,
      ⟨"hex", none, .flag fun g => { g with hex := true }⟩,
      ⟨"log-level", none, .value fun g s => return { g with level := ← level s }⟩,
      ⟨"log-format", none, .value fun g s => return { g with format := ← format s }⟩,
      help,
      ⟨"version", some 'V', .stop .displayVersion⟩]
    positionals := []
    subcommands := ["value", "values", "string", "function", "help"] }

def storeAddress : Store Operands := fun o s => return { o with address := ← address s }

def operands (subcommand : String) : Grammar Operands :=
  let own : List (Opt Operands) :=
    match subcommand with
    | "values" =>
      [⟨"count", some 'c', .value fun o s => return { o with count := ← length s }⟩]
    | "function" =>
      [⟨"state", none, .value fun o s => return { o with state := ← address s }⟩]
    | _ => []
  { options := own ++ [help]
    positionals := [storeAddress]
    subcommands := [] }

def helpFault : List String → UsageFault
  | [] => .displayHelp
  | [name] => if general.subcommands.contains name then .displayHelp else .invalidSubcommand
  | _ => .invalidSubcommand

def request (subcommand : String) (o : Operands) : Except UsageFault Request :=
  match o.address, subcommand with
  | none, _ => .error .missingRequired
  | some a, "value" => .ok (.value a)
  | some a, "values" => .ok (.values a o.count)
  | some a, "string" => .ok (.string a)
  | some a, "function" => .ok (.function a o.state)
  | some _, _ => .error .invalidSubcommand

def origin (g : General) : Except UsageFault Origin :=
  match g.pid, g.snapshot, g.base with
  | some _, some _, _ => .error .argumentConflict
  | some pid, none, _ => .ok (.process pid)
  | none, some path, some base => .ok (.snapshot path base g.pointerWidth)
  | none, some _, none => .error .missingRequired
  | none, none, _ => .error .missingRequired

/--
Reads the arguments of the program. The arguments of the subcommand are judged before the last option
in front of it and before what the options mean together.
-/
def parse (args : List String) : Except UsageFault Invocation := do
  match ← (Scan.start General.default).arguments general args with
  | (s, none) =>
    let s ← s.resolve
    if s.isEmpty then .error .displayHelpOnMissing else .error .missingSubcommand
  | (_, some ("help", rest)) => .error (helpFault rest)
  | (s, some (subcommand, rest)) =>
    let (t, _) ← (Scan.start Operands.default).arguments (operands subcommand) rest
    let request ← request subcommand (← t.resolve).draft
    let g := (← s.resolve).draft
    return {
      origin := ← origin g
      version := g.version
      maxString := g.maxString
      hex := g.hex
      level := g.level
      format := g.format
      request := request }

end CommandLine

end LuaScope
