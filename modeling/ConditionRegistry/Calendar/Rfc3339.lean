import ConditionRegistry.Calendar.Instant

set_option autoImplicit false

/-!
# Texts of instants

`2024-02-29T12:34:56.789+01:00`: a date, a time of day and the offset of the clock. Second 60 is a
leap second.
-/

namespace ConditionRegistry.Calendar
open Decimal

def digits? (n : Nat) (s : List Char) : Option (Nat × List Char) :=
  let ds := s.take n
  if ds.length = n ∧ ds.all Char.isDigit then some (valueOf ds, s.drop n) else none

def char? (c : Char) : List Char → Option (List Char)
  | d :: r => if c = d then some r else none
  | [] => none

def fraction? : List Char → Option (Nat × List Char)
  | '.' :: r =>
    let (ds, rest) := takeDigits r
    let counted := ds.take 9
    if ds.isEmpty then none else some (valueOf counted * Nat.pow 10 (9 - counted.length), rest)
  | s => some (0, s)

def signedOffset? (sign : Int) (s : List Char) : Option (Int × List Char) := do
  let (h, s) ← digits? 2 s
  let s ← char? ':' s
  let (m, s) ← digits? 2 s
  if h ≤ 23 ∧ m ≤ 59 then some (sign * ((h * 60 + m) * 60 : Nat), s) else none

def offset? : List Char → Option (Int × List Char)
  | 'Z' :: r => some (0, r)
  | 'z' :: r => some (0, r)
  | '+' :: r => signedOffset? 1 r
  | '-' :: r => signedOffset? (-1) r
  | '−' :: r => signedOffset? (-1) r
  | _ => none

def date? (s : List Char) : Option (Date × List Char) := do
  let (y, s) ← digits? 4 s
  let s ← char? '-' s
  let (m, s) ← digits? 2 s
  let s ← char? '-' s
  let (d, s) ← digits? 2 s
  if (Date.mk y m d).isValid then some (⟨y, m, d⟩, s) else none

/-- Seconds of the day and nanoseconds; second 60 is second 59 gone on. -/
def timeOfDay? (s : List Char) : Option ((Nat × Nat) × List Char) := do
  let (h, s) ← digits? 2 s
  let s ← char? ':' s
  let (m, s) ← digits? 2 s
  let s ← char? ':' s
  let (sec, s) ← digits? 2 s
  let (nanos, s) ← fraction? s
  if h ≤ 23 ∧ m ≤ 59 ∧ sec ≤ 60 then
    if sec = 60 then some ((h * 3600 + m * 60 + 59, 1000000000 + nanos), s)
    else some ((h * 3600 + m * 60 + sec, nanos), s)
  else none

def isDateEnd (c : Char) : Bool := c == 'T' || c == 't' || c == ' '

def Instant.ofText? (s : List Char) : Option Instant :=
  match date? s with
  | some (d, c :: s) =>
    if isDateEnd c then
      match timeOfDay? s with
      | some ((sec, nanos), s) =>
        match offset? s with
        | some (o, []) => some ⟨d.toDays * Instant.secondsPerDay + sec - o, nanos, o⟩
        | _ => none
      | none => none
    else none
  | _ => none

def padded (n value : Nat) : List Char :=
  let ds := Nat.toDigits 10 value
  List.replicate (n - ds.length) '0' ++ ds

def yearText (y : Int) : List Char :=
  if 0 ≤ y ∧ y ≤ 9999 then padded 4 y.toNat
  else (if y < 0 then '-' else '+') :: padded 4 y.natAbs

def fractionText (nanos : Nat) : List Char :=
  if nanos = 0 then []
  else if nanos % 1000000 = 0 then '.' :: padded 3 (nanos / 1000000)
  else if nanos % 1000 = 0 then '.' :: padded 6 (nanos / 1000)
  else '.' :: padded 9 nanos

def offsetText (o : Int) : List Char :=
  (if o < 0 then '-' else '+') :: padded 2 (o.natAbs / 3600) ++ ':' :: padded 2 (o.natAbs / 60 % 60)

def Instant.text (t : Instant) : List Char :=
  let d := t.date
  let sec := if 1000000000 ≤ t.nanos then t.second + 1 else t.second
  yearText d.year ++ '-' :: padded 2 d.month ++ '-' :: padded 2 d.day ++
    'T' :: padded 2 t.hour ++ ':' :: padded 2 t.minute ++ ':' :: padded 2 sec ++
    fractionText (t.nanos % 1000000000) ++ offsetText t.offset

end ConditionRegistry.Calendar
