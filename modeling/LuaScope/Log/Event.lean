import LuaScope.Log.Level
import LuaScope.Text.Quoted

/-!
This module contains log events and the lines that they are written as.
-/

namespace LuaScope

namespace Log

inductive FieldValue where
  | shown (text : String)
  | number (n : Int)
  | quoted (text : String)
  deriving DecidableEq, Repr

structure Event where
  level : Level
  target : String
  message : String
  fields : List (String × FieldValue)
  deriving DecidableEq, Repr

def FieldValue.readable : FieldValue → String
  | .shown text => text
  | .number n => Numeral.decimal n
  | .quoted text => Quoted.readable text

def FieldValue.json : FieldValue → String
  | .shown text | .quoted text => Quoted.json text
  | .number n => Numeral.decimal n

namespace Event

def prettyLine (time : String) (e : Event) : String :=
  let padding := String.ofList (List.replicate (5 - e.level.text.length) ' ')
  let fields := e.fields.map fun (key, value) => " " ++ key ++ "=" ++ value.readable
  time ++ " " ++ padding ++ e.level.text ++ " " ++ e.target ++ ": " ++ e.message
    ++ String.join fields

def jsonLine (time : String) (e : Event) : String :=
  let fields := e.fields.map fun (key, value) => "," ++ Quoted.json key ++ ":" ++ value.json
  "\x7b\"timestamp\":" ++ Quoted.json time
    ++ ",\"level\":" ++ Quoted.json e.level.text
    ++ ",\"fields\":\x7b\"message\":" ++ Quoted.json e.message ++ String.join fields ++ "\x7d"
    ++ ",\"target\":" ++ Quoted.json e.target ++ "\x7d"

def line (format : Format) (time : String) (e : Event) : String :=
  match format with
  | .pretty => e.prettyLine time
  | .json => e.jsonLine time

end Event

end Log

end LuaScope
