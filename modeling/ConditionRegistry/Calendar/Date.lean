set_option autoImplicit false

/-!
# Days

A day is counted from 1 January 1970, and named by year, month and day of month in the Gregorian
calendar, which is extended to all years. A year is counted from March, so that the leap day is its
last one.
-/

namespace ConditionRegistry.Calendar

structure Date where
  year : Int
  month : Nat
  day : Nat
  deriving DecidableEq, Repr

def isLeapYear (y : Int) : Bool := y % 4 == 0 && (y % 100 != 0 || y % 400 == 0)

def daysInMonth (y : Int) (m : Nat) : Nat :=
  match m with
  | 2 => if isLeapYear y then 29 else 28
  | 4 | 6 | 9 | 11 => 30
  | _ => 31

def Date.isValid (d : Date) : Bool :=
  1 ≤ d.month && d.month ≤ 12 && 1 ≤ d.day && d.day ≤ daysInMonth d.year d.month

def daysBeforeMonth (m : Nat) : Nat := (153 * m + 2) / 5

def Date.toDays (d : Date) : Int :=
  let y := if d.month ≤ 2 then d.year - 1 else d.year
  let beforeMonth : Int := daysBeforeMonth ((d.month + 9) % 12)
  365 * y + y / 4 - y / 100 + y / 400 + beforeMonth + d.day - 719469

/-- The leap days are taken out of the count of days before it is divided into years. -/
def Date.ofDays (n : Int) : Date :=
  let z := n + 719468
  let era := z / 146097
  let inEra := (z % 146097).toNat
  let years := (inEra - inEra / 1460 + inEra / 36524 - inEra / 146096) / 365
  let inYear := inEra - (365 * years + years / 4 - years / 100)
  let m := (5 * inYear + 2) / 153
  let month := if m < 10 then m + 3 else m - 9
  let y := (years : Int) + 400 * era
  ⟨if month ≤ 2 then y + 1 else y, month, inYear - daysBeforeMonth m + 1⟩

def Date.dayOfYear (d : Date) : Nat := (d.toDays - (Date.mk d.year 1 1).toDays).toNat

def dayOfWeek (days : Int) : Nat := ((days + 4) % 7).toNat

end ConditionRegistry.Calendar
