set_option autoImplicit false

/-!
# Texts as bytes

The UTF-8 bytes of a text, and the text of any bytes, in which each part that is no character
becomes the replacement character.
-/

namespace ConditionRegistry.Text

def bytesOf (s : List Char) : List UInt8 := s.flatMap String.utf8EncodeChar

def replacement : Char := Char.ofNat 0xFFFD

def continuation? (low high : Nat) : List UInt8 → Option Nat
  | b :: _ => if low ≤ b.toNat ∧ b.toNat ≤ high then some (b.toNat - 0x80) else none
  | [] => none

def threeByte (first low high : Nat) (r : List UInt8) : Char × Nat :=
  match continuation? low high r with
  | none => (replacement, 0)
  | some b1 =>
    match continuation? 0x80 0xBF (r.drop 1) with
    | none => (replacement, 1)
    | some b2 => (Char.ofNat (first * 0x1000 + b1 * 0x40 + b2), 2)

def fourByte (first low high : Nat) (r : List UInt8) : Char × Nat :=
  match continuation? low high r with
  | none => (replacement, 0)
  | some b1 =>
    match continuation? 0x80 0xBF (r.drop 1) with
    | none => (replacement, 1)
    | some b2 =>
      match continuation? 0x80 0xBF (r.drop 2) with
      | none => (replacement, 2)
      | some b3 => (Char.ofNat (first * 0x40000 + b1 * 0x1000 + b2 * 0x40 + b3), 3)

/-- The character that starts with byte `b`, and how many of the following bytes belong to it. -/
def decodeOne (b : UInt8) (r : List UInt8) : Char × Nat :=
  let n := b.toNat
  if n < 0x80 then (Char.ofNat n, 0)
  else if 0xC2 ≤ n ∧ n ≤ 0xDF then
    match continuation? 0x80 0xBF r with
    | some b1 => (Char.ofNat ((n - 0xC0) * 0x40 + b1), 1)
    | none => (replacement, 0)
  else if n = 0xE0 then threeByte 0 0xA0 0xBF r
  else if n = 0xED then threeByte 0xD 0x80 0x9F r
  else if 0xE1 ≤ n ∧ n ≤ 0xEF then threeByte (n - 0xE0) 0x80 0xBF r
  else if n = 0xF0 then fourByte 0 0x90 0xBF r
  else if n = 0xF4 then fourByte 4 0x80 0x8F r
  else if 0xF1 ≤ n ∧ n ≤ 0xF3 then fourByte (n - 0xF0) 0x80 0xBF r
  else (replacement, 0)

/-- The first `skip` bytes belong to a character that has been written. -/
def decodeAfter : Nat → List UInt8 → List Char
  | _, [] => []
  | skip + 1, _ :: r => decodeAfter skip r
  | 0, b :: r => (decodeOne b r).1 :: decodeAfter (decodeOne b r).2 r

def textOf (bs : List UInt8) : List Char := decodeAfter 0 bs

def textOf? (bs : List UInt8) : Option (List Char) :=
  let s := textOf bs
  if bytesOf s = bs then some s else none

def charAtByte? : Nat → List Char → Option Char
  | _, [] => none
  | 0, c :: _ => if c.utf8Size = 1 then some c else none
  | n + 1, c :: r => if c.utf8Size ≤ n + 1 then charAtByte? (n + 1 - c.utf8Size) r else none

def occursIn {α : Type} [BEq α] (part : List α) : List α → Bool
  | [] => part.isEmpty
  | a :: r => part.isPrefixOf (a :: r) || occursIn part r

end ConditionRegistry.Text
