import LuaScope.CommandLine.Invocation
import LuaScope.Host
import LuaScope.Symbols
import LuaScope.Value.Text

/-!
This module contains the work that is done for a command line: the target is opened, what is asked
for is read, and lines of output come of it.
-/

namespace LuaScope

namespace Command

def describe (f : LuaFunction) : List String :=
  let source := f.source.value?
  let shown := (source.map LuaFunction.displaySource).getD "?"
  let range := Numeral.text 10 f.startLine ++ "-" ++ Numeral.text 10 f.endLine
  [ "  Source: " ++ shown ++ " (" ++ source.getD "?" ++ " at " ++ f.sourceAddress.text ++ ")",
    "  Lines: " ++ range,
    "  Params: " ++ Numeral.text 10 f.header.params.toNat
      ++ (if f.header.isVararg then " + ..." else ""),
    "  Instructions: " ++ Numeral.text 10 f.instructionCount,
    "  Nested functions: " ++ Numeral.text 10 f.locals.size ]
    ++ f.locals.toList.map fun nested =>
      "    " ++ nested.address.text ++ " lines " ++ Numeral.text 10 nested.lineDefined ++ "-"
        ++ Numeral.text 10 nested.lastLineDefined

def describeSource (s : SourceSymbols LuaFunction) : String :=
  "  " ++ s.name ++ " at " ++ s.address.text ++ ": " ++ Numeral.text 10 s.functions.size
    ++ " function(s)"

/--
Registers the function of a closure and shows it with the symbols that came of it. Of a function
without a readable source only the lines are shown.
-/
def showFunction (target : Target) (version : Version) (closure state : Address) :
    Peek (Except Failure (List String)) := do
  match ← LuaFunction.ofClosure target version closure with
  | .error failure => return .error failure
  | .ok f =>
    let title := "Function " ++ f.address.text ++ " (closure " ++ closure.text ++ ")"
    let store ← (SymbolStore.empty : SymbolStore LuaFunction).track state
    let symbols := (store.symbols state)
    let symbols :=
      match ← symbols.register target f with
      | .ok (symbols, _) => symbols
      | .error _ => symbols
    match symbols.function? f.address with
    | none =>
      let range := Numeral.text 10 f.lineDefined ++ "-" ++ Numeral.text 10 f.lastLineDefined
      return .ok [title, "  Source: unavailable", "  Lines: " ++ range]
    | some registered =>
      return .ok (title :: describe registered ++
        ["", "Symbol table for state " ++ state.text ++ ":"] ++
        symbols.sources.values.map describeSource)

def answer (d : Decoder) (radix : Nat) : Request → Peek (Except Failure (List String))
  | .value address => do return .ok [(← d.readValue address).line radix]
  | .values address count => do
    let values ← d.readValues address count
    return .ok (values.toList.zipIdx.map fun (value, index) =>
      "[" ++ Numeral.text 10 index ++ "] " ++ value.line radix)
  | .string address => do return .ok [(← d.readString address).line radix]
  | .function closure state => showFunction d.target d.version closure state

variable {m : Type → Type} [Monad m]

def openTarget (host : Host m) (report : Notice → m Unit) (origin : Origin) :
    m (Except Failure (Access m)) := do
  match origin with
  | .process pid =>
    report (.attaching pid)
    match ← host.attach pid with
    | .error failure => return .error failure
    | .ok process =>
      report (.processOpened pid process.target.width)
      return .ok (.live process)
  | .snapshot path base width =>
    match PointerWidth.ofBytes? width with
    | none => return .error (.unsupportedWidth width)
    | some width =>
      report (.openingSnapshot path base width)
      match ← host.contentsOf path with
      | .error fault => return .error (.file fault)
      | .ok bytes =>
        report (.snapshotLoaded path base bytes.size)
        return .ok (.image ((Snapshot.empty ⟨width, .little⟩).addRegion base bytes))

def run (host : Host m) (report : Notice → m Unit) (i : Invocation) : m (Except Failure Unit) := do
  match ← openTarget host report i.origin with
  | .error failure => return .error failure
  | .ok access =>
    report (.decoderConfigured i.version i.maxString)
    let decoder : Decoder := ⟨access.target, i.version, i.maxString⟩
    match ← access.perform report (answer decoder (if i.hex then 16 else 10) i.request) with
    | .error failure => return .error failure
    | .ok lines =>
      lines.forM host.out
      return .ok ()

end Command

end LuaScope
