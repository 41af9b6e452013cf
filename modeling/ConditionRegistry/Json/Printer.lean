import ConditionRegistry.Decimal.Integer
import ConditionRegistry.Decimal.Layout
import ConditionRegistry.Json.Value

set_option autoImplicit false

/-!
# Writing JSON

Values are written without spaces. In strings only quotes, backslashes and control characters are
escaped.
-/

namespace ConditionRegistry.Json
open Decimal

def hexDigit (n : Nat) : Char := if n < 10 then Char.ofNat (48 + n) else Char.ofNat (87 + n)

def escaped (c : Char) : List Char :=
  if c == '"' then ['\\', '"']
  else if c == '\\' then ['\\', '\\']
  else if c == '\n' then ['\\', 'n']
  else if c == '\r' then ['\\', 'r']
  else if c == '\t' then ['\\', 't']
  else if c.toNat == 8 then ['\\', 'b']
  else if c.toNat == 12 then ['\\', 'f']
  else if c.toNat < 0x20 then
    ['\\', 'u', '0', '0', hexDigit (c.toNat / 16), hexDigit (c.toNat % 16)]
  else [c]

def quoted (s : String) : List Char := '"' :: (s.toList.flatMap escaped ++ ['"'])

def boolText (b : Bool) : List Char :=
  if b then ['t', 'r', 'u', 'e'] else ['f', 'a', 'l', 's', 'e']

def Number.text : Number → List Char
  | .integer n => integerText n
  | .double x => Layout.json.write x

def commas : List (List Char) → List Char
  | [] => []
  | [t] => t
  | t :: r => t ++ ',' :: commas r

def braces (s : List Char) : List Char := Char.ofNat 0x7B :: (s ++ [Char.ofNat 0x7D])

def objectText (ms : List (String × List Char)) : List Char :=
  braces (commas (ms.map fun m => quoted m.1 ++ ':' :: m.2))

mutual

def Value.text : Value → List Char
  | .null => ['n', 'u', 'l', 'l']
  | .bool b => boolText b
  | .number n => n.text
  | .string s => quoted s
  | .array vs => '[' :: (commas (textAll vs) ++ [']'])
  | .object ms => objectText (textMembers ms)

def textAll : List Value → List (List Char)
  | [] => []
  | v :: r => v.text :: textAll r

def textMembers : List (String × Value) → List (String × List Char)
  | [] => []
  | m :: r => textMember m :: textMembers r

def textMember : String × Value → String × List Char
  | (n, v) => (n, v.text)

end

end ConditionRegistry.Json
