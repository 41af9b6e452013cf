import ConditionRegistry.Decimal.Integer
import ConditionRegistry.Json.Value

set_option autoImplicit false

/-!
# Parts of JSON texts

Each scan takes what it reads from the front of a text. Strings and numbers can be passed over
without looking at what they stand for; then only their form counts.
-/

namespace ConditionRegistry.Json
open Decimal

abbrev Scan (α : Type) := List Char → Option (α × List Char)

def isSpace (c : Char) : Bool := c == ' ' || c == '\n' || c == '\t' || c == '\r'

def skipSpace (s : List Char) : List Char := s.dropWhile isSpace

def word : List Char → Scan Unit
  | [], s => some ((), s)
  | c :: w, d :: s => if c = d then word w s else none
  | _ :: _, [] => none

/-! ### Strings -/

def hexValue? (c : Char) : Option Nat :=
  if c.isDigit then some (c.toNat - 48)
  else if 'a' ≤ c ∧ c ≤ 'f' then some (c.toNat - 87)
  else if 'A' ≤ c ∧ c ≤ 'F' then some (c.toNat - 55)
  else none

def unit? : List Char → Option Nat
  | a :: b :: c :: d :: _ => do
    let a ← hexValue? a
    let b ← hexValue? b
    let c ← hexValue? c
    let d ← hexValue? d
    some (((a * 16 + b) * 16 + c) * 16 + d)
  | _ => none

def controlChar? : Char → Option Char
  | '"' => some '"'
  | '\\' => some '\\'
  | '/' => some '/'
  | 'b' => some (Char.ofNat 8)
  | 'f' => some (Char.ofNat 12)
  | 'n' => some '\n'
  | 'r' => some '\r'
  | 't' => some '\t'
  | _ => none

def isHighUnit (n : Nat) : Bool := 0xD800 ≤ n && n ≤ 0xDBFF
def isLowUnit (n : Nat) : Bool := 0xDC00 ≤ n && n ≤ 0xDFFF

def lowHalf? : List Char → Option Nat
  | '\\' :: 'u' :: r => (unit? r).bind fun n => if isLowUnit n then some n else none
  | _ => none

/-- The character of an escape, and how many characters follow its backslash. Characters beyond
    the first plane are pairs of escapes; a half of a pair is no character. -/
def escape? : List Char → Option (Char × Nat)
  | 'u' :: r =>
    match unit? r with
    | none => none
    | some n =>
      if isLowUnit n then none
      else if isHighUnit n then
        (lowHalf? (r.drop 4)).map fun m =>
          (Char.ofNat ((n - 0xD800) * 1024 + (m - 0xDC00) + 0x10000), 11)
      else some (Char.ofNat n, 5)
  | c :: _ => (controlChar? c).map fun d => (d, 1)
  | [] => none

/-- The rest of a string after its opening quote. The first `skip` characters belong to an escape
    that has been read. -/
def contentAfter : Nat → Scan (List Char)
  | _, [] => none
  | skip + 1, _ :: r => contentAfter skip r
  | 0, c :: r =>
    if c == '"' then some ([], r)
    else if c == '\\' then
      match escape? r with
      | some (d, n) => (contentAfter n r).map fun p => (d :: p.1, p.2)
      | none => none
    else if c.toNat < 0x20 then none
    else (contentAfter 0 r).map fun p => (c :: p.1, p.2)

def content : Scan (List Char) := contentAfter 0

def escapeForm? : List Char → Option Nat
  | 'u' :: r => (unit? r).map fun _ => 5
  | c :: _ => (controlChar? c).map fun _ => 1
  | [] => none

def passContent : Nat → Scan Unit
  | _, [] => none
  | skip + 1, _ :: r => passContent skip r
  | 0, c :: r =>
    if c == '"' then some ((), r)
    else if c == '\\' then
      match escapeForm? r with
      | some n => passContent n r
      | none => none
    else if c.toNat < 0x20 then none
    else passContent 0 r

/-! ### Numbers -/

structure Digits where
  negative : Bool
  whole : List Char
  fraction : Option (List Char)
  exponent : Option (Bool × List Char)
  deriving DecidableEq, Repr

def wholeDigits? (s : List Char) : Option (List Char × List Char) :=
  match takeDigits s with
  | ([], _) => none
  | ('0' :: _ :: _, _) => none
  | (ds, r) => some (ds, r)

def fractionDigits? : List Char → Option (Option (List Char) × List Char)
  | '.' :: r =>
    match takeDigits r with
    | ([], _) => none
    | (ds, r') => some (some ds, r')
  | r => some (none, r)

def exponentDigits? (s : List Char) : Option (Option (Bool × List Char) × List Char) :=
  match s with
  | c :: r =>
    if isExponentMark c then
      let (negative, r) := takeSign r
      match takeDigits r with
      | ([], _) => none
      | (ds, r') => some (some (negative, ds), r')
    else some (none, s)
  | [] => some (none, [])

def digits (s : List Char) : Option (Digits × List Char) :=
  let (negative, r) := match s with
    | '-' :: r => (true, r)
    | _ => (false, s)
  match wholeDigits? r with
  | none => none
  | some (whole, r) =>
    match fractionDigits? r with
    | none => none
    | some (fraction, r) =>
      match exponentDigits? r with
      | none => none
      | some (exponent, r) => some (⟨negative, whole, fraction, exponent⟩, r)

def wordLimit : Nat := 18446744073709551615

/-- Digits are taken into a number as long as it fits a word; the rest of them is given back. -/
def absorb : Nat → List Char → Nat × List Char
  | n, [] => (n, [])
  | n, c :: r =>
    let m := 10 * n + digitValue c
    if m ≤ wordLimit then absorb m r else (n, c :: r)

def powerOfTen (n : Nat) : Float := Float.ofScientific 1 false n

/-- `x * 10 ^ exponent`, scaled by one power of ten, after as many steps of `10 ^ -308` as are
    needed to come near. A number that is too large for a double is none. -/
def scale : Nat → Float → Int → Option Float
  | 0, x, _ => some x
  | fuel + 1, x, e =>
    if e.natAbs ≤ 308 then
      if 0 ≤ e then
        let y := x * powerOfTen e.natAbs
        if y.isInf then none else some y
      else some (x / powerOfTen e.natAbs)
    else if x == 0.0 then some x
    else if 0 ≤ e then none
    else scale fuel (x / powerOfTen 308) (e + 308)

/-- Exponents that are no 32-bit integer go for infinite. -/
def exponentLimit : Nat := 2147483647

/-- The double of a number with a fraction, an exponent or many digits. Two steps are enough to
    bring any word to zero. -/
def Digits.size? (d : Digits) : Option Float :=
  let (whole, dropped) := absorb 0 d.whole
  let fraction := d.fraction.getD []
  let (sig, left) := absorb whole fraction
  let shift : Int := (dropped.length : Int) - ((fraction.length : Int) - left.length)
  let x := (UInt64.ofNat sig).toFloat
  match d.exponent with
  | none => scale 3 x shift
  | some (negative, ds) =>
    let e := valueOf ds
    if e > exponentLimit then if sig ≠ 0 ∧ !negative then none else some 0.0
    else scale 3 x (if negative then shift - e else shift + e)

/-- Whole numbers stay integers if they fit; minus zero is a double. -/
def Digits.number? (d : Digits) : Option Number :=
  let n := valueOf d.whole
  if d.fraction.isNone ∧ d.exponent.isNone ∧ !d.negative ∧ n ≤ wordLimit then some (.integer n)
  else if d.fraction.isNone ∧ d.exponent.isNone ∧ d.negative ∧ 0 < n ∧ n ≤ Nat.pow 2 63 then
    some (.integer (-(n : Int)))
  else d.size?.map fun x => .double (if d.negative then -x else x)

def number : Scan Number := fun s =>
  match digits s with
  | some (d, r) => d.number?.map fun n => (n, r)
  | none => none

def passNumber : Scan Unit := fun s => (digits s).map fun p => ((), p.2)

end ConditionRegistry.Json
