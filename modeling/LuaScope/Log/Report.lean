import LuaScope.Log.Event
import LuaScope.Notice

/-!
This module contains the log events that notices are reported as.
-/

namespace LuaScope

namespace Notice

open Log

def optionalPath : Option String → String
  | none => "None"
  | some path => "Some(" ++ Quoted.readable path ++ ")"

def nat (n : Nat) : FieldValue := .number n

def place (a : Address) : FieldValue := .shown a.text

def event : Notice → Event
  | .loggingInitialized filter format file =>
    ⟨.debug, "luaprobe_utils::logging", "logging initialized",
      [("filter", .shown filter), ("format", .shown format.text),
        ("file", .shown (optionalPath file))]⟩
  | .openingSnapshot path base width =>
    ⟨.info, "luaprobe", "opening memory snapshot",
      [("path", .shown path), ("base", place base), ("width", .shown width.name)]⟩
  | .snapshotLoaded path base length =>
    ⟨.debug, "luaprobe_core::memory::snapshot", "loaded memory snapshot",
      [("path", .shown path), ("base", place base), ("len", nat length)]⟩
  | .attaching pid => ⟨.info, "luaprobe", "attaching to process", [("pid", nat pid)]⟩
  | .processOpened pid width =>
    ⟨.debug, "luaprobe_core::platform::linux", "opened process memory",
      [("pid", nat pid), ("pointer_width", .shown width.name)]⟩
  | .decoderConfigured version maxString =>
    ⟨.debug, "luaprobe", "decoder configured",
      [("version", .shown version.text), ("max_string", nat maxString)]⟩
  | .commandFailed reason => ⟨.error, "luaprobe", "command failed", [("error", .shown reason)]⟩
  | .countCapped address requested limit =>
    ⟨.warn, "luaprobe_core::decode", "value count capped",
      [("address", place address), ("requested", nat requested), ("limit", nat limit)]⟩
  | .valuesDecoded address count errors =>
    ⟨.debug, "luaprobe_core::decode", "decoded value array",
      [("address", place address), ("count", nat count), ("errors", nat errors)]⟩
  | .unknownTag payload tag version =>
    ⟨.warn, "luaprobe_core::decode", "unknown type tag",
      [("payload", place payload), ("tag", nat tag.toNat), ("version", .shown version.text)]⟩
  | .stringTruncated target length kept =>
    ⟨.debug, "luaprobe_core::decode", "string truncated",
      [("target", place target), ("len", nat length), ("kept", nat kept)]⟩
  | .prototypeRead address line nested =>
    ⟨.debug, "luaprobe_core::function", "read function prototype",
      [("address", place address), ("line", .number line), ("nested", .number nested)]⟩
  | .sourceUnreadable function source =>
    ⟨.warn, "luaprobe_core::function", "failed to read function source",
      [("function", place function), ("source", place source)]⟩
  | .nestedSkipped function slot =>
    ⟨.warn, "luaprobe_core::function", "skipping unreadable nested function",
      [("function", place function), ("slot", place slot)]⟩
  | .localsDiscovered function locals first last =>
    ⟨.debug, "luaprobe_core::function", "discovered local functions",
      [("function", place function), ("locals", nat locals), ("start", nat first),
        ("end", nat last)]⟩
  | .stateTracked state =>
    ⟨.debug, "luaprobe_core::symbols", "tracking new Lua state", [("state", place state)]⟩
  | .stateDropped state =>
    ⟨.debug, "luaprobe_core::symbols", "dropped Lua state symbols", [("state", place state)]⟩
  | .unreadFunction =>
    ⟨.error, "luaprobe_core::symbols::state",
      "function data must be read before it is added to the symbol store", []⟩
  | .sourceAdded source =>
    ⟨.debug, "luaprobe_core::symbols::state", "new source", [("source", .shown source)]⟩
  | .functionRegistered function source =>
    ⟨.debug, "luaprobe_core::symbols::state", "registered function",
      [("function", place function), ("source", .shown source)]⟩

end Notice

end LuaScope
