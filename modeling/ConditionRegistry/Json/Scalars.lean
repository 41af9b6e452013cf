import ConditionRegistry.Bindings
import ConditionRegistry.Fault
import ConditionRegistry.Json.Printer
import ConditionRegistry.Json.Reader

set_option autoImplicit false

/-!
# Scalars in JSON

An integer is an integer if it fits a word, and otherwise a double. Values that are no scalars are
refused; in bindings the first such member in the order of names is told. A value can also be taken
as the first kind of scalar that suits it, which does not say why a value suits none.
-/

namespace ConditionRegistry
open Decimal Json

/-- An integer that is too large for a word fits one without sign. -/
def Json.Number.toFloat : Json.Number → Float
  | .integer n =>
    match int64? n with
    | some m => m.toFloat
    | none => n.toNat.toUInt64.toFloat
  | .double x => x

def scalarOfNumber (n : Json.Number) : Scalar :=
  match n with
  | .integer i =>
    match int64? i with
    | some m => .integer m
    | none => .float n.toFloat
  | .double _ => .float n.toFloat

def scalarOfJson? : Json.Value → Option Scalar
  | .bool b => some (.boolean b)
  | .string s => some (.string s)
  | .number n => some (scalarOfNumber n)
  | _ => none

def scalarOfJson (v : Json.Value) : Except Fault Scalar :=
  match scalarOfJson? v with
  | some s => .ok s
  | none => .error ⟨.invalidArgument, "Unsupported value: " ++ String.ofList v.text⟩

def bindingsOfMembers : List (String × Json.Value) → Except Fault (List (String × Scalar))
  | [] => .ok []
  | (name, v) :: r =>
    match scalarOfJson? v with
    | none =>
      .error ⟨.invalidArgument, "Unsupported value for variable '" ++ name ++ "'"⟩
    | some s => (bindingsOfMembers r).map ((name, s) :: ·)

def bindingsOfJson (members : List (String × Json.Value)) : Except Fault Bindings :=
  (bindingsOfMembers members).map Bindings.ofList

/-! ### By trial -/

inductive ScalarKind where
  | integer
  | float
  | boolean
  | string
  deriving DecidableEq, Repr

/-- A value as a scalar of one kind. Every number suits doubles. -/
def ScalarKind.take? : ScalarKind → Json.Value → Option Scalar
  | .integer, .number (.integer n) => (int64? n).map .integer
  | .float, .number n => some (.float n.toFloat)
  | .boolean, .bool b => some (.boolean b)
  | .string, .string s => some (.string s)
  | _, _ => none

def ScalarKind.all : List ScalarKind := [.integer, .float, .boolean, .string]

def firstScalar? (v : Json.Value) : Option Scalar := ScalarKind.all.findSome? fun k => k.take? v

def firstBindings? (members : List (String × Json.Value)) : Option Bindings :=
  (members.mapM fun m => (firstScalar? m.2).map fun v => (m.1, v)).map Bindings.ofList

/-- Bindings of a text that is an object. Every member must suit, also one whose name comes
    again. -/
def readBindings? (s : List Char) : Option Bindings :=
  match skipSpace s with
  | c :: r =>
    if isOpenBrace c then
      match members content (value (maxDepth - 1)) r with
      | some (ms, rest) =>
        if (skipSpace rest).isEmpty then
          firstBindings? (ms.map fun m => (String.ofList m.1, m.2))
        else none
      | none => none
    else none
  | [] => none

/-- The text of a scalar. There is none for doubles that are not finite; they become null. -/
def Scalar.json : Scalar → List Char
  | .integer n => integerText n.toInt
  | .float x => Layout.json.write x
  | .boolean b => boolText b
  | .string s => quoted s

end ConditionRegistry
