import ConditionRegistry.Calendar.Instant

set_option autoImplicit false

/-!
# Values

What expressions evaluate to. Numbers of different kinds compare by size; all other kinds are apart.
The entries of a map have different keys, and integers with and without sign are different keys. A
list or a map is the same as itself, even if it holds a double that is not a number; so each carries
its origin, the place in the evaluation where it was made.

Maps are hash tables with a random seed. A map holds its entries in the order in which it gives
them, and which order that is, is the one thing that an evaluation takes from neither the text nor
the bindings: a `MapOrder`.
-/

namespace ConditionRegistry.Language
open Calendar Decimal

inductive Key where
  | int (n : Int64)
  | uint (n : UInt64)
  | bool (b : Bool)
  | string (s : String)
  deriving DecidableEq, Repr

inductive Builtin where
  | contains | size | max | min | startsWith | endsWith
  | string | bytes | double | int | uint | matches | duration | timestamp
  | getFullYear | getMonth | getDayOfYear | getDayOfMonth | getDate | getDayOfWeek
  | getHours | getMinutes | getSeconds | getMilliseconds
  deriving DecidableEq, Repr

/-- A place in an evaluation: the operands that lead to it from the whole expression, the innermost
    first. A turn of a loop counts as an operand too, so no place is met twice. -/
abbrev Origin := List Nat

inductive Value where
  | int (n : Int64)
  | uint (n : UInt64)
  | float (x : Float)
  | string (s : String)
  | bytes (bs : List UInt8)
  | bool (b : Bool)
  | null
  | list (origin : Origin) (vs : List Value)
  | map (origin : Origin) (es : List (Key × Value))
  | duration (d : Duration)
  | timestamp (t : Instant)
  /-- a function that has been named as a field of a value -/
  | function (f : Builtin) (on : Value)

/-- In which order a map that is made at a place gives the entries that were inserted. -/
structure MapOrder where
  arrange : Origin → List (Key × Value) → List (Key × Value)
  perm (here : Origin) (es : List (Key × Value)) : (arrange here es).Perm es

def MapOrder.inserted : MapOrder := ⟨fun _ es => es, fun _ es => .refl es⟩

theorem MapOrder.arrange_eq_self (order : MapOrder) (here : Origin) {es : List (Key × Value)}
    (h : es.length ≤ 1) : order.arrange here es = es := by
  match es, h with
  | [], _ => exact (order.perm here []).eq_nil
  | [e], _ => exact (order.perm here [e]).eq_singleton

def Key.value : Key → Value
  | .int n => .int n
  | .uint n => .uint n
  | .bool b => .bool b
  | .string s => .string s

def Value.key? : Value → Option Key
  | .int n => some (.int n)
  | .uint n => some (.uint n)
  | .bool b => some (.bool b)
  | .string s => some (.string s)
  | _ => none

def Key.otherKind? : Key → Option Key
  | .int n => (uint64? n.toInt).map .uint
  | .uint n => (int64? n.toNat).map .int
  | _ => none

def valueAt? (es : List (Key × Value)) (k : Key) : Option Value :=
  es.lookup k <|> k.otherKind?.bind fun other => es.lookup other

def floatOrder (a b : Float) : Option Ordering :=
  if a < b then some .lt else if b < a then some .gt else if a == b then some .eq else none

def Value.isTruthy : Value → Bool
  | .int n => n != 0
  | .uint n => n != 0
  | .float x => x != 0.0
  | .string s => s != ""
  | .bytes bs => !bs.isEmpty
  | .bool b => b
  | .null => false
  | .list _ vs => !vs.isEmpty
  | .map _ es => !es.isEmpty
  | .duration d => d.wordCount != 0
  | .timestamp t => t.isCounted
  | .function _ _ => false

def Value.order? : Value → Value → Option Ordering
  | .int a, .int b => some (compare a.toInt b.toInt)
  | .uint a, .uint b => some (compare a.toNat b.toNat)
  | .float a, .float b => floatOrder a b
  | .int a, .uint b => some (compare a.toInt b.toNat)
  | .uint a, .int b => some (compare (a.toNat : Int) b.toInt)
  | .int a, .float b => floatOrder a.toFloat b
  | .float a, .int b => floatOrder a b.toFloat
  | .uint a, .float b => floatOrder a.toFloat b
  | .float a, .uint b => floatOrder a b.toFloat
  | .string a, .string b => some (compare a b)
  | .bool a, .bool b => some (compare a b)
  | .null, .null => some .eq
  | .duration a, .duration b => some (compare a.nanoseconds b.nanoseconds)
  | .timestamp a, .timestamp b => some (a.order b)
  | _, _ => none

mutual

def Value.same : Value → Value → Bool
  | .int a, .int b => a == b
  | .uint a, .uint b => a == b
  | .float a, .float b => a == b
  | .int a, .uint b => a.toInt == b.toNat
  | .uint a, .int b => (a.toNat : Int) == b.toInt
  | .int a, .float b => a.toFloat == b
  | .float a, .int b => a == b.toFloat
  | .uint a, .float b => a.toFloat == b
  | .float a, .uint b => a == b.toFloat
  | .string a, .string b => a == b
  | .bytes a, .bytes b => a == b
  | .bool a, .bool b => a == b
  | .null, .null => true
  | .list p a, .list q b => p == q || sameAll a b
  | .map p a, .map q b => p == q || (a.length == b.length && sameEntries a b)
  | .duration a, .duration b => a == b
  | .timestamp a, .timestamp b => a.order b == .eq
  | .function f a, .function g b => f == g && a.same b
  | _, _ => false

def sameAll : List Value → List Value → Bool
  | [], [] => true
  | a :: as, b :: bs => a.same b && sameAll as bs
  | _, _ => false

/-- Every entry of the first map is one of the second. -/
def sameEntries : List (Key × Value) → List (Key × Value) → Bool
  | [], _ => true
  | e :: r, es => sameEntry e es && sameEntries r es

def sameEntry : Key × Value → List (Key × Value) → Bool
  | (k, v), es =>
    match es.lookup k with
    | some w => v.same w
    | none => false

end

def memberOf (v : Value) (vs : List Value) : Bool := vs.any fun w => w.same v

end ConditionRegistry.Language
