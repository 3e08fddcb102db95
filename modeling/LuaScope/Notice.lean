import LuaScope.Address
import LuaScope.Log.Level
import LuaScope.Target
import LuaScope.Version

/-!
This module contains what the inspector reports about its own work while it is at it.
-/

namespace LuaScope

inductive Notice where
  | loggingInitialized (filter : String) (format : Log.Format) (file : Option String)
  | openingSnapshot (path : String) (base : Address) (width : PointerWidth)
  | snapshotLoaded (path : String) (base : Address) (length : Nat)
  | attaching (pid : Nat)
  | processOpened (pid : Nat) (width : PointerWidth)
  | decoderConfigured (version : Version) (maxString : Nat)
  | commandFailed (reason : String)
  | countCapped (address : Address) (requested limit : Nat)
  | valuesDecoded (address : Address) (count errors : Nat)
  | unknownTag (payload : Address) (tag : UInt8) (version : Version)
  | stringTruncated (target : Address) (length kept : Nat)
  | prototypeRead (address : Address) (line nested : Int)
  | sourceUnreadable (function source : Address)
  | nestedSkipped (function slot : Address)
  | localsDiscovered (function : Address) (locals first last : Nat)
  | stateTracked (state : Address)
  | stateDropped (state : Address)
  | unreadFunction
  | sourceAdded (source : String)
  | functionRegistered (function : Address) (source : String)
  deriving DecidableEq, Repr

end LuaScope
