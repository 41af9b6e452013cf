import ConditionRegistry.Language.Arithmetic
import ConditionRegistry.Language.Expr
import ConditionRegistry.Text.Bytes

set_option autoImplicit false

/-!
# Looking into values

Elements, fields, membership and order.
-/

namespace ConditionRegistry.Language
open Text

def elementAt (vs : List Value) (i : Int64) : Value :=
  if i.toInt < 0 then .null else vs.getD i.toInt.toNat .null

/-- Strings are indexed by bytes; only a character of one byte is an element. -/
def characterAt (s : String) (i : Int64) : Value :=
  if i.toInt < 0 then .null else
    match charAtByte? i.toInt.toNat s.toList with
    | some c => .string (String.singleton c)
    | none => .null

def indexValue : Value → Value → Result
  | .list _ vs, .int i => .ok (elementAt vs i)
  | .string s, .int i => .ok (characterAt s i)
  | .map _ es, i =>
    match i.key? with
    | some k => .ok ((valueAt? es k).getD .null)
    | none => fails (.mapIndex i)
  | .list _ _, i => fails (.listIndex i)
  | v, i => fails (.index v i)

/-- An entry of a map, or else a function with the name of the field. -/
def fieldOf (v : Value) (name : String) : Result :=
  let entry := match v with
    | .map _ es => es.lookup (.string name)
    | _ => none
  match entry with
  | some w => .ok w
  | none =>
    match Builtin.named? name with
    | some f => .ok (.function f v)
    | none => fails (.noSuchKey name)

def hasEntry (v : Value) (name : String) : Bool :=
  match v with
  | .map _ es => (es.lookup (.string name)).isSome
  | _ => false

def isMember : Value → Value → Result
  | .string a, .string b => .ok (.bool (occursIn a.toList b.toList))
  | v, .list _ vs => .ok (.bool (memberOf v vs))
  | v, .map _ es => .ok (.bool (v.key?.any fun k => (es.lookup k).isSome))
  | a, b => fails (.incomparable a b)

def ordered (a b : Value) (test : Ordering → Bool) : Result :=
  match a.order? b with
  | some o => .ok (.bool (test o))
  | none => fails (.incomparable a b)

def Relation.apply : Relation → Value → Value → Result
  | .less, a, b => ordered a b (· == .lt)
  | .lessEqual, a, b => ordered a b (· != .gt)
  | .greaterEqual, a, b => ordered a b (· != .lt)
  | .greater, a, b => ordered a b (· == .gt)
  | .equal, a, b => .ok (.bool (a.same b))
  | .notEqual, a, b => .ok (.bool (!a.same b))
  | .member, a, b => isMember a b

def BinaryOp.apply (here : Origin) : BinaryOp → Value → Value → Result
  | .arithmetic op => op.apply here
  | .relation r => r.apply
  | .index => indexValue

end ConditionRegistry.Language
