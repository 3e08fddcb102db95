import LuaScope.CommandLine.Usage

/-!
This module contains command lines in general: options with long and short names, positional
arguments, and subcommands that the rest of the line belongs to.

A value is stored only when the argument behind it shows that the option is complete. So of two faults
the one that is met first when reading on decides, and a value before a subcommand is judged after it.
-/

namespace LuaScope

namespace CommandLine

abbrev Store (σ : Type) := σ → String → Except UsageFault σ

inductive Action (σ : Type) where
  | flag (set : σ → σ)
  | value (store : Store σ)
  | stop (fault : UsageFault)

structure Opt (σ : Type) where
  long : String
  short : Option Char
  action : Action σ

structure Grammar (σ : Type) where
  options : List (Opt σ)
  positionals : List (Store σ)
  subcommands : List String

structure Pending (σ : Type) where
  name : Option String
  store : Store σ
  text : Option String

structure Scan (σ : Type) where
  draft : σ
  seen : List String
  pending : Option (Pending σ)
  positional : Nat
  trailing : Bool

namespace Scan

variable {σ : Type}

def start (draft : σ) : Scan σ := ⟨draft, [], none, 0, false⟩

def mark (s : Scan σ) (name : String) : Except UsageFault (Scan σ) :=
  if s.seen.contains name then .error .argumentConflict
  else .ok { s with seen := name :: s.seen }

def storeText (s : Scan σ) (name : Option String) (store : Store σ) (text : String) :
    Except UsageFault (Scan σ) := do
  let s ←
    match name with
    | some name => s.mark name
    | none => pure s
  return { s with draft := ← store s.draft text }

def resolve (s : Scan σ) : Except UsageFault (Scan σ) :=
  match s.pending with
  | none => .ok s
  | some p =>
    match p.text with
    | none => .error .invalidValue
    | some text => storeText { s with pending := none } p.name p.store text

def isExpecting (s : Scan σ) : Bool :=
  match s.pending with
  | some p => p.text.isNone
  | none => false

def isEmpty (s : Scan σ) : Bool :=
  s.seen.isEmpty && s.positional == 0

def option (s : Scan σ) (o : Opt σ) (attached : Option String) : Except UsageFault (Scan σ) := do
  match o.action, attached with
  | .value store, some text => (← s.resolve).storeText (some o.long) store text
  | .value store, none => return { ← s.resolve with pending := some ⟨some o.long, store, none⟩ }
  | .flag _, some _ | .stop _, some _ => .error .tooManyValues
  | .flag set, none =>
    let s ← (← s.resolve).mark o.long
    return { s with draft := set s.draft }
  | .stop fault, none =>
    let _ ← s.resolve
    .error fault

/--
Reads options with short names that stand together. The first one that takes a value takes all that
is left of them.
-/
def shortOptions (g : Grammar σ) (s : Scan σ) : List Char → Except UsageFault (Scan σ)
  | [] => .ok s
  | c :: cs =>
    match g.options.find? (·.short == some c) with
    | none => .error .unknownArgument
    | some o =>
      match o.action with
      | .value _ =>
        match cs with
        | [] => s.option o none
        | '=' :: text | text => s.option o (some (String.ofList text))
      | .flag _ | .stop _ => do (← s.option o none).shortOptions g cs

def longOption (g : Grammar σ) (s : Scan σ) (cs : List Char) : Except UsageFault (Scan σ) :=
  let name := String.ofList (cs.takeWhile (· != '='))
  let attached :=
    match cs.dropWhile (· != '=') with
    | [] => none
    | _ :: text => some (String.ofList text)
  match g.options.find? (·.long == name) with
  | none => .error .unknownArgument
  | some o => s.option o attached

def positionalArgument (g : Grammar σ) (s : Scan σ) (text : String) :
    Except UsageFault (Scan σ) := do
  match g.positionals[s.positional]? with
  | some store =>
    let s ← s.resolve
    return { s with positional := s.positional + 1, pending := some ⟨none, store, some text⟩ }
  | none =>
    if g.subcommands.isEmpty then .error .unknownArgument
    else if s.trailing && g.subcommands.contains text then .error .unknownArgument
    else .error .invalidSubcommand

def argument (g : Grammar σ) (s : Scan σ) (text : String) : Except UsageFault (Scan σ) :=
  if s.trailing then s.positionalArgument g text
  else
    match text.toList with
    | ['-', '-'] => .ok { s with trailing := true }
    | '-' :: '-' :: cs => s.longOption g cs
    | '-' :: c :: cs => s.shortOptions g (c :: cs)
    | _ =>
      match s.pending with
      | some p =>
        if p.text.isNone then .ok { s with pending := some { p with text := some text } }
        else s.positionalArgument g text
      | none => s.positionalArgument g text

def arguments (g : Grammar σ) (s : Scan σ) :
    List String → Except UsageFault (Scan σ × Option (String × List String))
  | [] => .ok (s, none)
  | text :: rest =>
    if !s.trailing && !s.isExpecting && g.subcommands.contains text then
      .ok (s, some (text, rest))
    else do (← s.argument g text).arguments g rest

end Scan

end CommandLine

end LuaScope
