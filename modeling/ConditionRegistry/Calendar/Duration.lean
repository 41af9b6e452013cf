import ConditionRegistry.Decimal.Binary
import ConditionRegistry.Decimal.Integer

set_option autoImplicit false

/-!
# Spans of time

A span is a whole number of nanoseconds. Its text is a sequence of numbers with units, such as
`1h30m`; a number may have a fraction and an exponent.

Spans have a range, and the library of the calendar has no sum of two that leaves it. The text of a
span counts in words that wrap around, as they do in a release build.
-/

namespace ConditionRegistry.Calendar
open Decimal

structure Duration where
  nanoseconds : Int
  deriving DecidableEq, Repr

inductive TimeUnit where
  | hour | minute | second | millisecond | microsecond | nanosecond
  deriving DecidableEq, Repr

def TimeUnit.size : TimeUnit → Float
  | .hour => 3600000000000.0
  | .minute => 60000000000.0
  | .second => 1000000000.0
  | .millisecond => 1000000.0
  | .microsecond => 1000.0
  | .nanosecond => 1.0

namespace Duration

def second : Int := 1000000000

/-- Sums stay within this many nanoseconds of zero: a word of milliseconds. -/
def farthest : Int := int64High * 1000000

def inRange? (n : Int) : Option Duration :=
  if -farthest ≤ n ∧ n ≤ farthest then some ⟨n⟩ else none

def add? (a b : Duration) : Option Duration := inRange? (a.nanoseconds + b.nanoseconds)
def sub? (a b : Duration) : Option Duration := inRange? (a.nanoseconds - b.nanoseconds)

def fitsWord (d : Duration) : Bool := int64Low ≤ d.nanoseconds && d.nanoseconds ≤ int64High

def wordCount (d : Duration) : Int := if d.fitsWord then d.nanoseconds else 0

/-- The count of nanoseconds, or that of the whole seconds where it does not fit a word, taken as a
    word without sign. -/
def unsignedCount (d : Duration) : Nat :=
  let n := if d.fitsWord then d.nanoseconds else d.nanoseconds.tdiv second * second
  (n % 18446744073709551616).toNat

/-- Towards zero, and to the ends of the word beyond them. -/
def wholeNanoseconds (x : Float) : Int :=
  if x.isNaN then 0
  else if x.isInf then if isNegative x then int64Low else int64High
  else max int64Low (min int64High (wholePart x))

def unit? : List Char → Option (TimeUnit × List Char)
  | 'm' :: 's' :: r => some (.millisecond, r)
  | 'u' :: 's' :: r => some (.microsecond, r)
  | 'n' :: 's' :: r => some (.nanosecond, r)
  | 'h' :: r => some (.hour, r)
  | 'm' :: r => some (.minute, r)
  | 's' :: r => some (.second, r)
  | _ => none

/-- Reading a part ends without one, with a fault of the whole text, or with its value. -/
inductive Part (α : Type) where
  | absent
  | faulty
  | read (value : α) (rest : List Char)

def number (s : List Char) : Part Float :=
  let (negative, r) := takeSign s
  let plain (whole fraction rest : List Char) : Part Float :=
    match rest with
    | c :: rest' =>
      if isExponentMark c then
        match exponent? rest' with
        | some (e, rest'') => .read (Numeral.mk negative whole fraction e).toFloat rest''
        | none => .faulty
      else .read (Numeral.mk negative whole fraction 0).toFloat rest
    | [] => .read (Numeral.mk negative whole fraction 0).toFloat []
  match takeDigits r with
  | ([], '.' :: r') =>
    match takeDigits r' with
    | ([], _) => .absent
    | (fraction, rest) => plain [] fraction rest
  | ([], _) =>
    match asciiLower (s.take 3) with
    | ['n', 'a', 'n'] => .read (0.0 / 0.0) (s.drop 3)
    | ['i', 'n', 'f'] => .read (1.0 / 0.0) (s.drop 3)
    | _ => .absent
  | (whole, '.' :: r') => plain whole (takeDigits r').1 (takeDigits r').2
  | (whole, rest) => plain whole [] rest

def numberWithUnit (s : List Char) : Part Int :=
  match number s with
  | .absent => .absent
  | .faulty => .faulty
  | .read x rest =>
    match unit? rest with
    | none => .absent
    | some (u, rest') => .read (wholeNanoseconds (x * u.size)) rest'

/-- Numbers with units, up to the first place where there is none; each takes at least one
    character, so `fuel` is a bound on their number. Once their sum has left the range it has no
    total any more, but the text is still read to its end. -/
def sumOfParts : Nat → Option Duration → List Char → Option (Option Duration)
  | 0, total, _ => some total
  | fuel + 1, total, s =>
    match numberWithUnit s with
    | .absent => some total
    | .faulty => none
    | .read n rest => sumOfParts fuel (total.bind fun d => d.add? ⟨n⟩) rest

/-- The text of a span: `0`, or at least one number with a unit. What follows the last unit does not
    matter. -/
def ofUnsigned? (s : List Char) : Option (Option Duration) :=
  if s == ['0'] then some (some ⟨0⟩) else
    match numberWithUnit s with
    | .read n rest => sumOfParts rest.length (inRange? n) rest
    | _ => none

/-- A text may be none of a span, or its parts may have no sum. -/
def ofText? : List Char → Option (Option Duration)
  | '-' :: s => (ofUnsigned? s).map fun d => d.map fun d => ⟨-d.nanoseconds⟩
  | s => ofUnsigned? s

def scaledText (n places : Nat) : List Char :=
  let below := n % Nat.pow 10 places
  let digits := Nat.toDigits 10 below
  let padded := List.replicate (places - digits.length) '0' ++ digits
  let fraction := if below = 0 then [] else '.' :: (padded.reverse.dropWhile (· == '0')).reverse
  Nat.toDigits 10 (n / Nat.pow 10 places) ++ fraction

def hoursMinutesText (seconds : Nat) : List Char :=
  let minutes := seconds / 60
  let hours := minutes / 60
  (if hours = 0 then [] else Nat.toDigits 10 hours ++ ['h']) ++
    (if minutes = 0 then [] else Nat.toDigits 10 (minutes % 60) ++ ['m'])

def sizeText (u : Nat) : List Char :=
  if u = 0 then ['0', 's']
  else if u < 1000 then scaledText u 0 ++ ['n', 's']
  else if u < 1000000 then scaledText u 3 ++ ['µ', 's']
  else if u < 1000000000 then scaledText u 6 ++ ['m', 's']
  else hoursMinutesText (u / 1000000000) ++
    scaledText (u % 60000000000) 9 ++ ['s']

/-- A negative span has a minus sign before its count taken as a word without sign. -/
def text (d : Duration) : List Char :=
  (if d.nanoseconds < 0 then ['-'] else []) ++ sizeText d.unsignedCount

/-- Seconds and nanoseconds apart, the nanoseconds never negative. -/
def debugText (d : Duration) : List Char :=
  let secs := integerText (d.nanoseconds / second)
  let nanos := integerText (d.nanoseconds % second)
  "TimeDelta ".toList ++ Char.ofNat 0x7B :: " secs: ".toList ++ secs ++
    ", nanos: ".toList ++ nanos ++ [' ', Char.ofNat 0x7D]

end Duration

end ConditionRegistry.Calendar
