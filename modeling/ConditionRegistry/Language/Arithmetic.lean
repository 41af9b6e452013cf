import ConditionRegistry.Language.Stop

set_option autoImplicit false

/-!
# Arithmetic

Operations on two values of the same kind, and on points in time and spans. An integer result that
is no word of its kind is an overflow. A list that an operation makes has its origin where the
operation is evaluated.

The sign of an integer is changed without a check, and it is assumed that words wrap around there,
as they do in a release build. A build with checks of its own breaks off at the least integer.
-/

namespace ConditionRegistry.Language
open Calendar Decimal

def intResult (op : ArithmeticOp) (a b : Int64) (n : Int) : Result :=
  match int64? n with
  | some m => .ok (.int m)
  | none => fails (.overflow op (.int a) (.int b))

def uintResult (op : ArithmeticOp) (a b : UInt64) (n : Int) : Result :=
  match uint64? n with
  | some m => .ok (.uint m)
  | none => fails (.overflow op (.uint a) (.uint b))

def durationResult (op : ArithmeticOp) (a b : Duration) (d : Option Duration) : Result :=
  match d with
  | some d => .ok (.duration d)
  | none => fails (.overflow op (.duration a) (.duration b))

def instantResult (op : ArithmeticOp) (a b : Value) (t : Instant) : Result :=
  if t.isRepresentable then .ok (.timestamp t) else fails (.overflow op a b)

def addValues (here : Origin) : Value → Value → Result
  | .int a, .int b => intResult .plus a b (a.toInt + b.toInt)
  | .uint a, .uint b => uintResult .plus a b (a.toNat + b.toNat : Nat)
  | .float a, .float b => .ok (.float (a + b))
  | .list _ a, .list _ b => .ok (.list here (a ++ b))
  | .string a, .string b => .ok (.string (a ++ b))
  | .duration a, .duration b => durationResult .plus a b (a.add? b)
  | .timestamp t, .duration d => instantResult .plus (.timestamp t) (.duration d) (t.add d)
  | .duration d, .timestamp t => instantResult .plus (.duration d) (.timestamp t) (t.add d)
  | a, b => fails (.unsupported .plus a b)

def subValues : Value → Value → Result
  | .int a, .int b => intResult .minus a b (a.toInt - b.toInt)
  | .uint a, .uint b => uintResult .minus a b ((a.toNat : Int) - b.toNat)
  | .float a, .float b => .ok (.float (a - b))
  | .duration a, .duration b => durationResult .minus a b (a.sub? b)
  | .timestamp t, .duration d =>
    instantResult .minus (.timestamp t) (.duration d) (t.add ⟨-d.nanoseconds⟩)
  | .timestamp t, .timestamp u => .ok (.duration (t.since u))
  | a, b => fails (.unsupported .minus a b)

def mulValues : Value → Value → Result
  | .int a, .int b => intResult .times a b (a.toInt * b.toInt)
  | .uint a, .uint b => uintResult .times a b (a.toNat * b.toNat : Nat)
  | .float a, .float b => .ok (.float (a * b))
  | a, b => fails (.unsupported .times a b)

def divValues : Value → Value → Result
  | .int a, .int b =>
    if b = 0 then fails (.divisionByZero (.int a))
    else intResult .divide a b (a.toInt.tdiv b.toInt)
  | .uint a, .uint b =>
    if b = 0 then fails (.divisionByZero (.uint a)) else .ok (.uint (a / b))
  | .float a, .float b => .ok (.float (a / b))
  | a, b => fails (.unsupported .divide a b)

/-- A remainder is an overflow where its quotient is one. -/
def remValues : Value → Value → Result
  | .int a, .int b =>
    if b = 0 then fails (.remainderByZero (.int a))
    else if (int64? (a.toInt.tdiv b.toInt)).isNone then fails (.overflow .modulo (.int a) (.int b))
    else intResult .modulo a b (a.toInt.tmod b.toInt)
  | .uint a, .uint b =>
    if b = 0 then fails (.remainderByZero (.uint a)) else .ok (.uint (a % b))
  | a, b => fails (.unsupported .modulo a b)

def ArithmeticOp.apply (here : Origin) : ArithmeticOp → Value → Value → Result
  | .plus => addValues here
  | .minus => subValues
  | .times => mulValues
  | .divide => divValues
  | .modulo => remValues

/-- The least integer is its own negative. -/
def negateValue : Value → Result
  | .int n => .ok (.int (-n))
  | .float x => .ok (.float (-x))
  | v => fails (.unsupportedMinus v)

end ConditionRegistry.Language
