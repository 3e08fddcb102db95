import LuaScope.FileTree
import LuaScope.Main
import LuaScope.Memory.CString
import LuaScope.Poke
import LuaScope.Proofs.Utf8
import LuaScope.Proofs.Alignment
import LuaScope.Proofs.Walk
import LuaScope.Proofs.Fields
import LuaScope.Proofs.ObjectHeader
import LuaScope.Proofs.StringHeader
import LuaScope.Proofs.Image
import LuaScope.Proofs.Layout
import LuaScope.Proofs.Representation
import LuaScope.Proofs.Decoding
import LuaScope.Proofs.Shadowing
import LuaScope.Proofs.StringContent
import LuaScope.Proofs.SymbolHistory
import LuaScope.Proofs.Checks
import LuaScope.Proofs.OneSource
import LuaScope.Proofs.SourceName
import LuaScope.Proofs.CStringRead
import LuaScope.Proofs.Moves
import LuaScope.Proofs.PrototypeLayout
import LuaScope.Proofs.DecodeFaults
import LuaScope.Proofs.Positions
import LuaScope.Proofs.Cells
import LuaScope.Proofs.NestedFunctions
import LuaScope.Proofs.SourceLookup
import LuaScope.Proofs.DefinitionLines
import LuaScope.Proofs.Registration
import LuaScope.Proofs.RegistrationOrder
import LuaScope.Proofs.TypedWrites
import LuaScope.Proofs.StringRequests
import LuaScope.Proofs.Truncation
import LuaScope.Proofs.LuaEquality
import LuaScope.Proofs.IntegerText
import LuaScope.Proofs.ChunkedString
import LuaScope.Proofs.AddressText
import LuaScope.Proofs.VersionText
import LuaScope.Proofs.Rounding
