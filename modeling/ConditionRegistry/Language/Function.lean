import ConditionRegistry.Language.Access
import ConditionRegistry.Pattern.Parser

set_option autoImplicit false

/-!
# Functions

A function sees the outcomes of all its arguments and looks at those it needs, in order. It may be
called on a target; then the target takes the place of its first argument. Arguments beyond those it
needs do not matter.
-/

namespace ConditionRegistry.Language
open Calendar Decimal Text

structure Call where
  target : Option Value
  args : List Result

def Call.arg (c : Call) (i : Nat) : Result :=
  match c.args[i]? with
  | some r => r
  | none => fails (.argumentCount (i + 1) c.args.length)

/-- What a function is called on. Where that is an argument without a value, the reason why it has
    none is not told. -/
def Call.subject {α : Type} (c : Call) (read : Value → Except (Stop RunFault) α) :
    Except (Stop RunFault) α :=
  match c.target with
  | some v => read v
  | none =>
    match c.arg 0 with
    | .ok v => read v
    | .error .broken => breaksOff
    | .error (.fault _) => fails .missingTarget

def Call.other (c : Call) : Result := c.arg (if c.target.isSome then 0 else 1)

def anyValue (v : Value) : Result := .ok v

def stringOf : Value → Except (Stop RunFault) (List Char)
  | .string s => .ok s.toList
  | v => fails (.unexpectedType v .string)

def instantOf : Value → Except (Stop RunFault) Instant
  | .timestamp t => .ok t
  | v => fails (.unexpectedType v .timestamp)

def Call.all (c : Call) : Except (Stop RunFault) (List Value) := c.args.mapM id

def containsPart : Value → Value → Result
  | .list _ vs, v => .ok (.bool (memberOf v vs))
  | .map _ es, v =>
    match v.key? with
    | some k => .ok (.bool (es.lookup k).isSome)
    | none => fails (.unusableKey v)
  | .string s, .string part => .ok (.bool (occursIn part.toList s.toList))
  | .bytes bs, .bytes part =>
    if part.isEmpty then breaksOff else .ok (.bool (occursIn part bs))
  | _, _ => .ok (.bool false)

def count (n : Nat) : Value := .int (Int64.ofNat n)

def sizeOfValue : Value → Result
  | .list _ vs => .ok (count vs.length)
  | .map _ es => .ok (count es.length)
  | .string s => .ok (count s.utf8ByteSize)
  | .bytes bs => .ok (count bs.length)
  | v => fails (.inFunction .size ("cannot determine the size of " ++ v.shown))

/-- The extreme of values that all have an order; the later of two that are equal. -/
def extreme (keep : Ordering) : Value → List Value → Result
  | best, [] => .ok best
  | best, v :: r =>
    match best.order? v with
    | some o => extreme keep (if o == keep then best else v) r
    | none => fails (.incomparable best v)

/-- One argument that is a list stands for its elements. -/
def extremeOf (keep : Ordering) (vs : List Value) : Result :=
  match vs with
  | [] => .ok .null
  | [.list _ []] => .ok .null
  | [.list _ (v :: r)] => extreme keep v r
  | [v] => .ok v
  | v :: r => extreme keep v r

def cannotConvert (f : Builtin) (v : Value) : Result :=
  fails (.inFunction f ("cannot convert " ++ v.shown ++ " to " ++ f.name))

def parseFault (f : Builtin) (message : String) : Result :=
  fails (.inFunction f ("string parse error: " ++ message))

def toText : Value → Result
  | .string s => .ok (.string s)
  | .timestamp t => .ok (.string (String.ofList t.text))
  | .duration d => .ok (.string (String.ofList d.text))
  | .int n => .ok (.string (intText n.toInt))
  | .uint n => .ok (.string (intText n.toNat))
  | .float x => .ok (.string (String.ofList (Layout.display.write x)))
  | .bytes bs => .ok (.string (String.ofList (textOf bs)))
  | v => cannotConvert .string v

def toDouble : Value → Result
  | .string s =>
    match floatOfText? s.toList with
    | some x => .ok (.float x)
    | none =>
      parseFault .double
        (if s = "" then "cannot parse float from empty string" else "invalid float literal")
  | .float x => .ok (.float x)
  | .int n => .ok (.float n.toFloat)
  | .uint n => .ok (.float n.toFloat)
  | v => cannotConvert .double v

def wholeWithin (low high : Int) (x : Float) : Int :=
  if x.isNaN then 0 else max low (min high (wholePart x))

def toInt : Value → Result
  | .string s =>
    match int64OfText s.toList with
    | .ok n => .ok (.int n)
    | .error e => parseFault .int e.message
  | .float x =>
    if x > 9223372036854775808.0 || x < -9223372036854775808.0 then
      fails (.inFunction .int "integer overflow")
    else .ok (.int (Int64.ofInt (wholeWithin int64Low int64High x)))
  | .int n => .ok (.int n)
  | .uint n =>
    match int64? n.toNat with
    | some m => .ok (.int m)
    | none => fails (.inFunction .int "integer overflow")
  | v => cannotConvert .int v

def toUint : Value → Result
  | .string s =>
    match uint64OfText s.toList with
    | .ok n => .ok (.uint n)
    | .error e => parseFault .uint e.message
  | .float x =>
    if x > 18446744073709551616.0 || x < 0.0 then
      fails (.inFunction .uint "unsigned integer overflow")
    else .ok (.uint (UInt64.ofNat (wholeWithin 0 uint64High x).toNat))
  | .int n =>
    match uint64? n.toInt with
    | some m => .ok (.uint m)
    | none => fails (.inFunction .uint "unsigned integer overflow")
  | .uint n => .ok (.uint n)
  | v => cannotConvert .uint v

/-- Where the parts of a text have a sum out of range there is no answer, not even a fault. -/
def durationOfText (s : List Char) : Result :=
  match Duration.ofText? s with
  | some (some d) => .ok (.duration d)
  | some none => breaksOff
  | none => fails (.inFunction .duration "invalid text")

def timestampOfText (s : List Char) : Result :=
  match Instant.ofText? s with
  | some t => .ok (.timestamp t)
  | none => fails (.inFunction .timestamp "invalid text")

def matchesPattern (s pattern : List Char) : Result :=
  match Pattern.search? pattern s with
  | some b => .ok (.bool b)
  | none => fails (.inFunction .matches "invalid pattern")

def Call.part (c : Call) (f : Instant → Int) : Result := do
  let t ← c.subject instantOf
  .ok (.int (Int64.ofInt (f t)))

def Call.test (c : Call) (f : List Char → List Char → Result) : Result := do
  let s ← c.subject stringOf
  let p ← c.other >>= stringOf
  f s p

def Builtin.apply (f : Builtin) (c : Call) : Result :=
  match f with
  | .contains => do
    let v ← c.subject anyValue
    let part ← c.other
    containsPart v part
  | .size => c.subject anyValue >>= sizeOfValue
  | .max => c.all >>= extremeOf .gt
  | .min => c.all >>= extremeOf .lt
  | .startsWith => c.test fun s p => .ok (.bool (p.isPrefixOf s))
  | .endsWith => c.test fun s p => .ok (.bool (p.isSuffixOf s))
  | .string => c.subject anyValue >>= toText
  | .bytes => do
    let s ← c.arg 0 >>= stringOf
    .ok (.bytes (bytesOf s))
  | .double => c.subject anyValue >>= toDouble
  | .int => c.subject anyValue >>= toInt
  | .uint => c.subject anyValue >>= toUint
  | .matches => c.test matchesPattern
  | .duration => c.arg 0 >>= stringOf >>= durationOfText
  | .timestamp => c.arg 0 >>= stringOf >>= timestampOfText
  | .getFullYear => c.part fun t => t.date.year
  | .getMonth => c.part fun t => (t.date.month : Int) - 1
  | .getDayOfYear => do
    let t ← c.subject instantOf
    if t.newYear.isRepresentable then .ok (.int (Int64.ofNat t.date.dayOfYear)) else breaksOff
  | .getDayOfMonth => c.part fun t => (t.date.day : Int) - 1
  | .getDate => c.part fun t => t.date.day
  | .getDayOfWeek => c.part fun t => t.weekday
  | .getHours => c.part fun t => t.hour
  | .getMinutes => c.part fun t => t.minute
  | .getSeconds => c.part fun t => t.second
  | .getMilliseconds => c.part fun t => t.millisecond

end ConditionRegistry.Language
