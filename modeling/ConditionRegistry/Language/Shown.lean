import ConditionRegistry.Calendar.Rfc3339
import ConditionRegistry.Decimal.Layout
import ConditionRegistry.Language.Value
import ConditionRegistry.Text.Quoted

set_option autoImplicit false

/-!
# Values in messages

A value in a message has its kind before it, so that no two kinds look the same.
-/

namespace ConditionRegistry.Language
open Decimal

def Builtin.name : Builtin → String
  | .contains => "contains"
  | .size => "size"
  | .max => "max"
  | .min => "min"
  | .startsWith => "startsWith"
  | .endsWith => "endsWith"
  | .string => "string"
  | .bytes => "bytes"
  | .double => "double"
  | .int => "int"
  | .uint => "uint"
  | .matches => "matches"
  | .duration => "duration"
  | .timestamp => "timestamp"
  | .getFullYear => "getFullYear"
  | .getMonth => "getMonth"
  | .getDayOfYear => "getDayOfYear"
  | .getDayOfMonth => "getDayOfMonth"
  | .getDate => "getDate"
  | .getDayOfWeek => "getDayOfWeek"
  | .getHours => "getHours"
  | .getMinutes => "getMinutes"
  | .getSeconds => "getSeconds"
  | .getMilliseconds => "getMilliseconds"

def Builtin.all : List Builtin :=
  [.contains, .size, .max, .min, .startsWith, .endsWith, .string, .bytes, .double, .int, .uint,
   .matches, .duration, .timestamp, .getFullYear, .getMonth, .getDayOfYear, .getDayOfMonth,
   .getDate, .getDayOfWeek, .getHours, .getMinutes, .getSeconds, .getMilliseconds]

def Builtin.named? (s : String) : Option Builtin := all.find? fun f => f.name == s

def joined (parts : List String) : String := ", ".intercalate parts

def intText (n : Int) : String := String.ofList (integerText n)

def quotedText (s : String) : String := String.ofList (Text.quote s.toList)

def boolText (b : Bool) : String := if b then "true" else "false"

def Key.shown : Key → String
  | .int n => "Int(" ++ intText n.toInt ++ ")"
  | .uint n => "Uint(" ++ intText n.toNat ++ ")"
  | .bool b => "Bool(" ++ boolText b ++ ")"
  | .string s => "String(" ++ quotedText s ++ ")"

mutual

def Value.shown : Value → String
  | .int n => "Int(" ++ intText n.toInt ++ ")"
  | .uint n => "UInt(" ++ intText n.toNat ++ ")"
  | .float x => "Float(" ++ String.ofList (Layout.debug.write x) ++ ")"
  | .string s => "String(" ++ quotedText s ++ ")"
  | .bytes bs => "Bytes([" ++ joined (bs.map fun b => intText b.toNat) ++ "])"
  | .bool b => "Bool(" ++ boolText b ++ ")"
  | .null => "Null"
  | .list _ vs => "List([" ++ joined (shownAll vs) ++ "])"
  | .map _ es => "Map(Map \x7b map: \x7b" ++ joined (shownEntries es) ++ "\x7d \x7d)"
  | .duration d => "Duration(" ++ String.ofList d.debugText ++ ")"
  | .timestamp t => "Timestamp(" ++ String.ofList t.text ++ ")"
  | .function f v => "Function(" ++ quotedText f.name ++ ", Some(" ++ v.shown ++ "))"

def shownAll : List Value → List String
  | [] => []
  | v :: r => v.shown :: shownAll r

def shownEntries : List (Key × Value) → List String
  | [] => []
  | e :: r => shownEntry e :: shownEntries r

def shownEntry : Key × Value → String
  | (k, v) => k.shown ++ ": " ++ v.shown

end

end ConditionRegistry.Language
