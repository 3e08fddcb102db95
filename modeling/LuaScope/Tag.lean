import LuaScope.Version

/-!
This module contains the type tags of values and what they mean in each version. From the second
version on, bits 4 and 5 of a tag hold the variant of a type and bit 6 marks collectable objects.
-/

namespace LuaScope

inductive Tag where
  | nil
  | boolFalse
  | boolTrue
  | boolean
  | lightUserData
  | float
  | integer
  /-- A string whose length alone makes it short or long. -/
  | string
  | shortString
  | longString
  | table
  /-- A closure whose object says whether it is one of Lua or of C. -/
  | function
  | luaClosure
  | lightCFunction
  | cClosure
  | userData
  | thread
  | unknown (tag : UInt8)
  deriving DecidableEq, Repr

namespace Tag

def collectableBit : UInt8 := 0x40

def variant (base number : UInt8) : UInt8 :=
  base ||| (number <<< 4)

def classifyCommon (tag : UInt8) : Option Tag :=
  if tag = 2 then some .lightUserData
  else if tag = variant 4 0 then some .shortString
  else if tag = variant 4 1 then some .longString
  else if tag = 5 then some .table
  else if tag = variant 6 0 then some .luaClosure
  else if tag = variant 6 1 then some .lightCFunction
  else if tag = variant 6 2 then some .cClosure
  else if tag = 7 then some .userData
  else if tag = 8 then some .thread
  else none

def classify51 (tag : UInt8) : Option Tag :=
  if tag = 0 then some .nil
  else if tag = 1 then some .boolean
  else if tag = 2 then some .lightUserData
  else if tag = 3 then some .float
  else if tag = 4 then some .string
  else if tag = 5 then some .table
  else if tag = 6 then some .function
  else if tag = 7 then some .userData
  else if tag = 8 then some .thread
  else none

def classify52 (tag : UInt8) : Option Tag :=
  if tag = 0 then some .nil
  else if tag = 1 then some .boolean
  else if tag = 3 then some .float
  else classifyCommon tag

def classify53 (tag : UInt8) : Option Tag :=
  if tag = 0 then some .nil
  else if tag = 1 then some .boolean
  else if tag = variant 3 0 then some .float
  else if tag = variant 3 1 then some .integer
  else classifyCommon tag

/--
Empty table slots and absent keys have tags of their own, which are variants of `nil`.
-/
def classify54 (tag : UInt8) : Option Tag :=
  if tag = variant 0 0 ∨ tag = variant 0 1 ∨ tag = variant 0 2 then some .nil
  else if tag = variant 1 0 then some .boolFalse
  else if tag = variant 1 1 then some .boolTrue
  else if tag = variant 3 0 then some .integer
  else if tag = variant 3 1 then some .float
  else classifyCommon tag

def classify (version : Version) (tag : UInt8) : Tag :=
  let known :=
    match version with
    | .v51 => classify51 tag
    | .v52 => classify52 (tag &&& ~~~collectableBit)
    | .v53 => classify53 (tag &&& ~~~collectableBit)
    | .v54 => classify54 (tag &&& ~~~collectableBit)
  known.getD (.unknown tag)

end Tag

end LuaScope
