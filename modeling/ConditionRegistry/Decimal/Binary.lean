set_option autoImplicit false

/-!
# Doubles as integers

A finite double is `mantissa * 2 ^ exponent`. Everything exact about doubles is said on these two
integers.
-/

namespace ConditionRegistry.Decimal

structure Binary where
  mantissa : Nat
  exponent : Int
  /-- the double below is half as far away as the double above -/
  narrowBelow : Bool

def Binary.ofBits (bits : UInt64) : Binary :=
  let e := ((bits >>> 52) &&& 0x7FF).toNat
  let f := (bits &&& 0xFFFFFFFFFFFFF).toNat
  if e == 0 then ⟨f, -1074, false⟩ else ⟨Nat.pow 2 52 + f, (e : Int) - 1075, f == 0 && e > 1⟩

def isNegative (x : Float) : Bool := x.toBits >>> 63 == 1

def compareScaled (a : Nat) (i : Int) (n : Nat) (j : Int) : Ordering :=
  compare (a * Nat.pow 10 i.toNat * Nat.pow 2 (-j).toNat)
    (n * Nat.pow 2 j.toNat * Nat.pow 10 (-i).toNat)

/-- Whether `digits * 10 ^ exponent` lies among the reals that are nearest to this double, the ends
    belonging to the double with the even mantissa. -/
def Binary.readsBack (x : Binary) (digits : Nat) (exponent : Int) : Bool :=
  let low := if x.narrowBelow then 4 * x.mantissa - 1 else 4 * x.mantissa - 2
  let high := 4 * x.mantissa + 2
  let closed := x.mantissa % 2 == 0
  let atLow := compareScaled digits exponent low (x.exponent - 2)
  let atHigh := compareScaled digits exponent high (x.exponent - 2)
  (atLow == .gt || (closed && atLow == .eq)) && (atHigh == .lt || (closed && atHigh == .eq))

def wholePart (x : Float) : Int :=
  let b := Binary.ofBits x.toBits
  let size : Nat :=
    match b.exponent with
    | .ofNat k => b.mantissa * Nat.pow 2 k
    | .negSucc k => b.mantissa / Nat.pow 2 (k + 1)
  if isNegative x then -(size : Int) else size

end ConditionRegistry.Decimal
