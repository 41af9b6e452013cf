set_option autoImplicit false

/-!
# Reading decimals

A decimal numeral in a text, as its digits and a power of ten, and the double nearest to it.
-/

namespace ConditionRegistry.Decimal

def digitValue (c : Char) : Nat := c.toNat - 48

def valueOf (ds : List Char) : Nat := ds.foldl (fun n c => 10 * n + digitValue c) 0

/-- The double nearest to `digits * 10 ^ exponent`. Beyond the range of doubles it is infinite or
    zero, whatever the size of the exponent. -/
def nearest (digits : Nat) (exponent : Int) : Float :=
  let size := (digits.log2 : Int) * 30103 / 100000 + exponent
  if digits = 0 ∨ size < -330 then 0.0
  else if size > 310 then 1.0 / 0.0
  else Float.ofScientific digits (exponent < 0) exponent.natAbs

structure Numeral where
  negative : Bool
  whole : List Char
  fraction : List Char
  exponent : Int
  deriving DecidableEq, Repr

def Numeral.toFloat (n : Numeral) : Float :=
  let size := nearest (valueOf (n.whole ++ n.fraction)) (n.exponent - n.fraction.length)
  if n.negative then -size else size

def takeSign : List Char → Bool × List Char
  | '-' :: r => (true, r)
  | '+' :: r => (false, r)
  | r => (false, r)

def takeDigits (s : List Char) : List Char × List Char := s.span Char.isDigit

def exponent? (s : List Char) : Option (Int × List Char) :=
  let (negative, r) := takeSign s
  match takeDigits r with
  | ([], _) => none
  | (ds, rest) => some (if negative then -(valueOf ds : Int) else valueOf ds, rest)

def isExponentMark (c : Char) : Bool := c == 'e' || c == 'E'

def mantissa? (s : List Char) : Option (List Char × List Char × List Char) :=
  match takeDigits s with
  | (whole, '.' :: r) =>
    let (fraction, rest) := takeDigits r
    if whole.isEmpty && fraction.isEmpty then none else some (whole, fraction, rest)
  | ([], _) => none
  | (whole, rest) => some (whole, [], rest)

def asciiLower (s : List Char) : List Char := s.map Char.toLower

/-- A double as free text: a sign, then a numeral, `inf`, `infinity` or `nan` in any case.
    Nothing else may stand before or after it. -/
def floatOfText? (s : List Char) : Option Float :=
  let (negative, r) := takeSign s
  let signed (x : Float) : Float := if negative then -x else x
  match asciiLower r with
  | ['n', 'a', 'n'] => some (0.0 / 0.0)
  | ['i', 'n', 'f'] => some (signed (1.0 / 0.0))
  | ['i', 'n', 'f', 'i', 'n', 'i', 't', 'y'] => some (signed (1.0 / 0.0))
  | _ =>
    match mantissa? r with
    | none => none
    | some (whole, fraction, []) => some (Numeral.mk negative whole fraction 0).toFloat
    | some (whole, fraction, c :: rest) =>
      if isExponentMark c then
        match exponent? rest with
        | some (e, []) => some (Numeral.mk negative whole fraction e).toFloat
        | _ => none
      else none

end ConditionRegistry.Decimal
