import ConditionRegistry.Decimal.Binary

set_option autoImplicit false

/-!
# Shortest decimals

The decimal with the fewest digits among those that read back to a given double, and of several
such the nearest. The search tries one digit, two digits, and so on; on each grid only the two
neighbours of the double can read back.
-/

namespace ConditionRegistry.Decimal

inductive Tie where
  | toEven
  | away
  deriving DecidableEq, Repr

structure Scaled where
  digits : Nat
  exponent : Int
  deriving DecidableEq, Repr

def Scaled.stripZeros : Nat → Scaled → Scaled
  | 0, d => d
  | fuel + 1, d =>
    if d.digits ≠ 0 ∧ d.digits % 10 = 0 then stripZeros fuel ⟨d.digits / 10, d.exponent + 1⟩ else d

/-- The least `k` with `x < 10 ^ k`, for `x` other than zero. -/
def Binary.scale (x : Binary) : Int :=
  let guess := (((x.mantissa.log2 : Int) + x.exponent) * 30103).fdiv 100000
  if compareScaled 1 guess x.mantissa x.exponent == .gt then guess
  else if compareScaled 1 (guess + 1) x.mantissa x.exponent == .gt then guess + 1
  else guess + 2

/-- The better of the two neighbours of `x` on the grid of `10 ^ grid`, if one of them reads back
    as `x`. -/
def Binary.onGrid? (x : Binary) (tie : Tie) (grid : Int) : Option Scaled :=
  let num := x.mantissa * Nat.pow 2 x.exponent.toNat * Nat.pow 10 (-grid).toNat
  let den := Nat.pow 2 (-x.exponent).toNat * Nat.pow 10 grid.toNat
  let d := num / den
  let below := x.readsBack d grid
  let above := x.readsBack (d + 1) grid
  let up : Bool :=
    match compare (2 * num) ((2 * d + 1) * den) with
    | .lt => false
    | .gt => true
    | .eq => tie == .away || d % 2 == 1
  if below && !(above && up) then some ⟨d, grid⟩
  else if above then some ⟨d + 1, grid⟩
  else none

def Binary.exact (x : Binary) : Scaled :=
  let places := (-x.exponent).toNat
  ⟨x.mantissa * Nat.pow 2 x.exponent.toNat * Nat.pow 5 places, -(places : Int)⟩

/-- Grids of at most seventeen digits are tried; a double has one among them. -/
def Binary.shortest (x : Binary) (tie : Tie) : Scaled :=
  if x.mantissa = 0 then ⟨0, 0⟩ else
    let k := x.scale
    let found := (List.range 17).findSome? fun (n : Nat) => x.onGrid? tie (k - 1 - (n : Int))
    (found.getD x.exact).stripZeros 800

end ConditionRegistry.Decimal
