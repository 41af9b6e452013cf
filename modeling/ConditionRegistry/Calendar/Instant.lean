import ConditionRegistry.Calendar.Date
import ConditionRegistry.Calendar.Duration

set_option autoImplicit false

/-!
# Points in time

An instant is a second of universal time, a part of that second, and the offset of the clock it was
read from. A leap second is the second before it, gone on for longer than a second.
-/

namespace ConditionRegistry.Calendar
open Decimal

structure Instant where
  /-- since the start of 1970 -/
  seconds : Int
  /-- less than two seconds; a second or more within a leap second -/
  nanos : Nat
  /-- of the clock, in seconds to the east -/
  offset : Int
  deriving DecidableEq, Repr

namespace Instant

def secondsPerDay : Int := 86400

def clockSeconds (t : Instant) : Int := t.seconds + t.offset

def date (t : Instant) : Date := Date.ofDays (t.clockSeconds / secondsPerDay)

def secondOfDay (t : Instant) : Nat := (t.clockSeconds % secondsPerDay).toNat

def hour (t : Instant) : Nat := t.secondOfDay / 3600
def minute (t : Instant) : Nat := t.secondOfDay / 60 % 60
def second (t : Instant) : Nat := t.secondOfDay % 60
def millisecond (t : Instant) : Nat := t.nanos / 1000000
def weekday (t : Instant) : Nat := dayOfWeek (t.clockSeconds / secondsPerDay)

/-- Earlier and later do not depend on the clock. -/
def order (a b : Instant) : Ordering := (compare a.seconds b.seconds).then (compare a.nanos b.nanos)

def count (t : Instant) : Int := t.seconds * Duration.second + t.nanos

/-- After the start of 1970, and near enough for its nanoseconds to fit a word. -/
def isCounted (t : Instant) : Bool := 0 < t.count && t.count ≤ int64High

/-- A leap second lies between two times of day if the earlier of them is within one. -/
def leapBetween (a b : Instant) : Int :=
  let secondA := a.seconds % secondsPerDay
  let secondB := b.seconds % secondsPerDay
  if secondB < secondA then if 1000000000 ≤ b.nanos then 1 else 0
  else if secondA < secondB then if 1000000000 ≤ a.nanos then -1 else 0
  else 0

def since (a b : Instant) : Duration := ⟨a.count - b.count + leapBetween a b * Duration.second⟩

/-- The instant without its leap second, on the side of it towards which the span leads, or the
    instant itself if the span does not leave that second. -/
def leaveLeapSecond (t : Instant) (wholeSeconds part : Int) : Option Instant :=
  if t.nanos < 1000000000 then some t
  else if 0 < wholeSeconds ∨ (0 < part ∧ 2000000000 ≤ t.nanos + part) then
    some ⟨t.seconds, t.nanos - 1000000000, t.offset⟩
  else if wholeSeconds < 0 then some ⟨t.seconds + 1, t.nanos - 1000000000, t.offset⟩
  else none

def add (t : Instant) (d : Duration) : Instant :=
  let wholeSeconds := d.nanoseconds.tdiv Duration.second
  let part := d.nanoseconds.tmod Duration.second
  match leaveLeapSecond t wholeSeconds part with
  | none => ⟨t.seconds, (t.nanos + part).toNat, t.offset⟩
  | some u =>
    let n := u.count + d.nanoseconds
    ⟨n / Duration.second, (n % Duration.second).toNat, t.offset⟩

/-- The years from -262143 to 262142 of universal time. -/
def isRepresentable (t : Instant) : Bool :=
  (Date.mk (-262143) 1 1).toDays * secondsPerDay ≤ t.seconds &&
    t.seconds < (Date.mk 262143 1 1).toDays * secondsPerDay

def newYear (t : Instant) : Instant :=
  ⟨t.seconds - t.date.dayOfYear * secondsPerDay, t.nanos, t.offset⟩

end Instant

end ConditionRegistry.Calendar
