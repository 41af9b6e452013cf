import ConditionRegistry.Decimal.Numeral

set_option autoImplicit false

/-!
# Reading integers

An integer text is an optional sign and digits, up to the bounds of its type. A text is read from
the left, and the first character that cannot be taken decides the complaint.
-/

namespace ConditionRegistry.Decimal

inductive IntegerFault where
  | empty
  | invalidDigit
  | tooLarge
  | tooSmall
  deriving DecidableEq, Repr

def IntegerFault.message : IntegerFault → String
  | .empty => "cannot parse integer from empty string"
  | .invalidDigit => "invalid digit found in string"
  | .tooLarge => "number too large to fit in target type"
  | .tooSmall => "number too small to fit in target type"

def digitsUpTo (high : Int) : Int → List Char → Except IntegerFault Int
  | n, [] => .ok n
  | n, c :: r =>
    if !c.isDigit then .error .invalidDigit
    else if 10 * n + digitValue c > high then .error .tooLarge
    else digitsUpTo high (10 * n + digitValue c) r

def digitsDownTo (low : Int) : Int → List Char → Except IntegerFault Int
  | n, [] => .ok n
  | n, c :: r =>
    if !c.isDigit then .error .invalidDigit
    else if 10 * n - digitValue c < low then .error .tooSmall
    else digitsDownTo low (10 * n - digitValue c) r

/-- A type without negative values has no minus sign. -/
def integerOfText (low high : Int) : List Char → Except IntegerFault Int
  | [] => .error .empty
  | ['+'] => .error .invalidDigit
  | ['-'] => .error .invalidDigit
  | '+' :: r => digitsUpTo high 0 r
  | '-' :: r => if low < 0 then digitsDownTo low 0 r else .error .invalidDigit
  | s => digitsUpTo high 0 s

def int64Low : Int := -9223372036854775808
def int64High : Int := 9223372036854775807
def uint64High : Int := 18446744073709551615

def int64OfText (s : List Char) : Except IntegerFault Int64 :=
  (integerOfText int64Low int64High s).map Int64.ofInt

def uint64OfText (s : List Char) : Except IntegerFault UInt64 :=
  (integerOfText 0 uint64High s).map fun n => UInt64.ofNat n.toNat

def int64? (n : Int) : Option Int64 :=
  if int64Low ≤ n ∧ n ≤ int64High then some (Int64.ofInt n) else none

def uint64? (n : Int) : Option UInt64 :=
  if 0 ≤ n ∧ n ≤ uint64High then some (UInt64.ofNat n.toNat) else none

def integerText : Int → List Char
  | .ofNat n => Nat.toDigits 10 n
  | .negSucc n => '-' :: Nat.toDigits 10 (n + 1)

end ConditionRegistry.Decimal
