/-!
This module contains the decoding of UTF-8. Bytes that are no part of a character are replaced, one
replacement character standing for each longest sequence that begins a character and does not go on.
-/

namespace LuaScope

namespace Utf8

def replacement : Char := '\uFFFD'

/--
A character of which some bytes were read. The next one has to lie between `low` and `high`, and
`left` of them are missing.
-/
structure Partial where
  left : Nat
  low : UInt8
  high : UInt8
  code : Nat
  deriving DecidableEq, Repr

structure State where
  text : String
  pending : Option Partial

inductive Lead where
  | whole (c : Char)
  | begins (p : Partial)
  | invalid
  deriving DecidableEq, Repr

def Lead.ofByte (b : UInt8) : Lead :=
  if b < 0x80 then .whole (Char.ofNat b.toNat)
  else if b < 0xC2 then .invalid
  else if b < 0xE0 then .begins ⟨1, 0x80, 0xBF, b.toNat - 0xC0⟩
  else if b = 0xE0 then .begins ⟨2, 0xA0, 0xBF, 0⟩
  else if b = 0xED then .begins ⟨2, 0x80, 0x9F, 0xD⟩
  else if b < 0xF0 then .begins ⟨2, 0x80, 0xBF, b.toNat - 0xE0⟩
  else if b = 0xF0 then .begins ⟨3, 0x90, 0xBF, 0⟩
  else if b = 0xF4 then .begins ⟨3, 0x80, 0x8F, 4⟩
  else if b < 0xF4 then .begins ⟨3, 0x80, 0xBF, b.toNat - 0xF0⟩
  else .invalid

def State.lead (text : String) (b : UInt8) : State :=
  match Lead.ofByte b with
  | .whole c => ⟨text.push c, none⟩
  | .begins p => ⟨text, some p⟩
  | .invalid => ⟨text.push replacement, none⟩

def State.next (s : State) (b : UInt8) : State :=
  match s.pending with
  | none => lead s.text b
  | some p =>
    if p.low ≤ b ∧ b ≤ p.high then
      let code := p.code * 64 + (b.toNat - 0x80)
      if p.left = 1 then ⟨s.text.push (Char.ofNat code), none⟩
      else ⟨s.text, some ⟨p.left - 1, 0x80, 0xBF, code⟩⟩
    else lead (s.text.push replacement) b

def State.finish (s : State) : String :=
  match s.pending with
  | none => s.text
  | some _ => s.text.push replacement

def decodeLossy (bytes : List UInt8) : String :=
  (bytes.foldl State.next ⟨"", none⟩).finish

end Utf8

end LuaScope
