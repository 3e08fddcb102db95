import LuaScope.Log.Event
import LuaScope.Text.Alphanumeric
import LuaScope.Text.Blank

/-!
This module contains the filters that decide which log events are written. A filter is a list of
directives, each of them a level for the targets that begin in a certain way. Of the directives that
concern an event the one with the longest beginning decides, and an event without any is dropped.
-/

namespace LuaScope

namespace Log

inductive FilterFault where
  | directive
  | level
  deriving DecidableEq, Repr

def FilterFault.message : FilterFault → String
  | .directive => "invalid filter directive"
  | .level =>
    "error parsing level filter: expected one of \"off\", \"error\", \"warn\", \"info\", "
      ++ "\"debug\", \"trace\", or a number 0-5"

/--
What a directive asks of an event apart from its target. It may be for the events that have a field,
or for the inside of a span.
-/
inductive Scope where
  | anywhere
  | field (name : String)
  | span
  deriving DecidableEq, Repr

structure Directive where
  target : String
  scope : Scope
  rank : Nat
  deriving DecidableEq, Repr

namespace Scope

/--
Reads a scope in square brackets, if there is one, and returns what follows it. A span has a name,
and a field is in braces. To ask for the value of a field is to ask for a span that has it.
-/
def split? : List Char → Option (Scope × List Char)
  | '[' :: cs =>
    let name := cs.takeWhile fun c => c != ']' && c != '\x7b'
    match cs.drop name.length with
    | ']' :: rest => some (.span, rest)
    | '\x7b' :: rest =>
      let field := rest.takeWhile (· != '\x7d')
      match field, rest.drop field.length with
      | _ :: _, '\x7d' :: ']' :: rest =>
        if name.isEmpty && !field.contains '=' then some (.field (String.ofList field), rest)
        else some (.span, rest)
      | _, _ => none
    | _ => none
  | cs => some (.anywhere, cs)

def includes : Scope → Event → Bool
  | .anywhere, _ => true
  | .field name, e => name == "message" || e.fields.any (·.1 == name)
  | .span, _ => false

def yieldsTo : Scope → Scope → Bool
  | .field name, .field other => name ≤ other
  | .field _, _ => false
  | _, _ => true

end Scope

def rank? (word : String) : Option Nat :=
  match Numeral.parseNat 10 UInt64.size word.toList with
  | .ok n => if n ≤ 5 then some n else none
  | .error _ =>
    match word.toLower with
    | "off" => some 0
    | "error" => some 1
    | "warn" => some 2
    | "info" => some 3
    | "debug" => some 4
    | "trace" => some 5
    | _ => none

def startsDirective : List Char → Bool
  | [] => false
  | c :: _ => c == '[' || c == '-' || c == ':' || c == '_' || isAlphanumeric c

/--
Reads a directive: a target and its level, a level for all targets, or a target of which everything
is let through. White space in front of a directive is part of it, so that it cannot be a level, and
no level can follow.
-/
def Directive.parse (cs : List Char) : Except FilterFault Directive :=
  let front := cs.takeWhile isBlank
  let body := trimBlank cs
  let target := body.takeWhile fun c => c != '=' && c != '['
  if !startsDirective body then .error .directive
  else
    match Scope.split? (body.drop target.length) with
    | none => .error .directive
    | some (.anywhere, []) =>
      match rank? (String.ofList cs) with
      | some rank => .ok ⟨"", .anywhere, rank⟩
      | none => .ok ⟨String.ofList cs, .anywhere, 5⟩
    | some (scope, []) => .ok ⟨String.ofList (front ++ target), scope, 5⟩
    | some (scope, '=' :: level) =>
      let level := level ++ cs.drop (front.length + body.length)
      if !front.isEmpty then .error .level
      else if level.isEmpty then .ok ⟨String.ofList target, scope, 5⟩
      else
        match rank? (String.ofList level) with
        | some rank => .ok ⟨String.ofList target, scope, rank⟩
        | none => .error .level
    | some (_, _ :: _) => .error .directive

def Directive.concerns (d : Directive) (e : Event) : Bool :=
  d.target.toList.isPrefixOf e.target.toList && d.scope.includes e

structure Filter where
  directives : List Directive
  deriving DecidableEq, Repr

namespace Filter

def splitCommas : List Char → List (List Char)
  | [] => [[]]
  | c :: cs =>
    if c = ',' then [] :: splitCommas cs
    else
      match splitCommas cs with
      | [] => [[c]]
      | part :: parts => (c :: part) :: parts

def parse (s : String) : Except FilterFault Filter := do
  let parts := (splitCommas s.toList).filter (!·.isEmpty)
  return ⟨← parts.mapM Directive.parse⟩

/--
The more specific of two directives, and the later one of two that are alike.
-/
def prefer (best : Option Directive) (d : Directive) : Option Directive :=
  match best with
  | none => some d
  | some b =>
    let size := b.target.utf8ByteSize
    let other := d.target.utf8ByteSize
    if size < other || (size == other && b.scope.yieldsTo d.scope) then some d else some b

def decisive? (f : Filter) (e : Event) : Option Directive :=
  (f.directives.filter (·.concerns e)).foldl prefer none

def passes (f : Filter) (e : Event) : Bool :=
  match f.decisive? e with
  | none => false
  | some d => e.level.rank ≤ d.rank

end Filter

end Log

end LuaScope
