import ConditionRegistry.Text.Property

set_option autoImplicit false

/-!
# Quoted text in messages

A text between double quotes, with everything that cannot be seen or that would join the character
before it written as a code point.
-/

namespace ConditionRegistry.Text

def isVisible (c : Char) : Bool :=
  if c.toNat < 0x80 then 0x20 ≤ c.toNat && c.toNat < 0x7F
  else isAssigned c && !isOneOf (Category.separators ++ [.control, .format]) c

def codePoint (c : Char) : List Char :=
  '\\' :: 'u' :: Char.ofNat 0x7B :: (Nat.toDigits 16 c.toNat ++ [Char.ofNat 0x7D])

def quoteChar (c : Char) : List Char :=
  if c.toNat == 0 then ['\\', '0']
  else if c == '\t' then ['\\', 't']
  else if c == '\r' then ['\\', 'r']
  else if c == '\n' then ['\\', 'n']
  else if c == '\\' then ['\\', '\\']
  else if c == '"' then ['\\', '"']
  else if !isVisible c || (0x80 ≤ c.toNat && extending.has c) then codePoint c
  else [c]

def quote (s : List Char) : List Char := '"' :: (s.flatMap quoteChar ++ ['"'])

end ConditionRegistry.Text
