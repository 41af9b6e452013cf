import ConditionRegistry.Decimal.Shortest

set_option autoImplicit false

/-!
# Texts of doubles

How the digits of a double are laid out: with a point among them, or with one digit before the
point and a power of ten. Each output format is one `Layout`.
-/

namespace ConditionRegistry.Decimal

structure Layout where
  /-- decimal exponents of the leading digit from here … -/
  plainFrom : Int
  /-- … and below here are written without a power of ten -/
  plainBelow : Int
  /-- whole numbers end in `.0` -/
  pointZero : Bool
  /-- a positive power of ten has a `+` -/
  plusSign : Bool
  tie : Tie
  nan : List Char
  infinite : List Char
  minusInfinite : List Char

def digitsOf (n : Nat) : List Char := Nat.toDigits 10 n

def Layout.plain (l : Layout) (ds : List Char) (e : Int) : List Char :=
  if e < 0 then '0' :: '.' :: (List.replicate (-e - 1).toNat '0' ++ ds)
  else
    let whole := ds.take (e.toNat + 1)
    let padded := whole ++ List.replicate (e.toNat + 1 - whole.length) '0'
    match ds.drop (e.toNat + 1) with
    | [] => if l.pointZero then padded ++ ['.', '0'] else padded
    | fraction => padded ++ '.' :: fraction

def Layout.scientific (l : Layout) (ds : List Char) (e : Int) : List Char :=
  let mantissa := match ds with
    | [] => []
    | [d] => [d]
    | d :: r => d :: '.' :: r
  let power := if e < 0 then '-' :: digitsOf (-e).toNat
    else if l.plusSign then '+' :: digitsOf e.toNat else digitsOf e.toNat
  mantissa ++ 'e' :: power

def Layout.write (l : Layout) (x : Float) : List Char :=
  if x.isNaN then l.nan
  else if x.isInf then if isNegative x then l.minusInfinite else l.infinite
  else
    let d := (Binary.ofBits x.toBits).shortest l.tie
    let ds := digitsOf d.digits
    let e := d.exponent + ds.length - 1
    let size := if l.plainFrom ≤ e ∧ e < l.plainBelow then l.plain ds e else l.scientific ds e
    if isNegative x then '-' :: size else size

def Layout.display : Layout :=
  ⟨-400, 400, false, false, .away, ['N', 'a', 'N'], ['i', 'n', 'f'], ['-', 'i', 'n', 'f']⟩

def Layout.debug : Layout :=
  ⟨-4, 16, true, false, .away, ['N', 'a', 'N'], ['i', 'n', 'f'], ['-', 'i', 'n', 'f']⟩

/-- The form of JSON, which has no numbers that are not finite. -/
def Layout.json : Layout :=
  let none := ['n', 'u', 'l', 'l']
  ⟨-5, 16, true, true, .toEven, none, none, none⟩

end ConditionRegistry.Decimal
