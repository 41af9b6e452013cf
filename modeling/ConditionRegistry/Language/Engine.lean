import ConditionRegistry.Engine
import ConditionRegistry.Language.Eval
import ConditionRegistry.Language.Parser

set_option autoImplicit false

/-!
# The engine of the language

Expressions are the programs. Bound scalars are values of their own kind, and a value is given back
as a scalar if it is a number, a Boolean or a string.
-/

namespace ConditionRegistry.Language
open Decimal

def valueOfScalar : Scalar → Value
  | .integer n => .int n
  | .float x => .float x
  | .boolean b => .bool b
  | .string s => .string s

/-- An unsigned integer that is too large for an integer is given back as a double. -/
def scalarOfValue : Value → Except String Scalar
  | .int n => .ok (.integer n)
  | .uint n =>
    match int64? n.toNat with
    | some m => .ok (.integer m)
    | none => .ok (.float n.toFloat)
  | .float x => .ok (.float x)
  | .bool b => .ok (.boolean b)
  | .string s => .ok (.string s)
  | v => .error ("unsupported result type " ++ v.shown)

def scopeOf (b : Bindings) : Scope := b.entries.map fun e => (e.1, valueOfScalar e.2)

def parseText (text : String) : Except String Expr :=
  match parse? text.toList with
  | some e => .ok e
  | none => .error "not an expression"

def run (order : MapOrder) (e : Expr) (b : Bindings) : Except (Stop String) Scalar :=
  match eval order [] (scopeOf b) e with
  | .ok v => (scalarOfValue v).mapError .fault
  | .error s => .error (s.map RunFault.message)

def engine (order : MapOrder := .inserted) : Engine := ⟨Expr, parseText, run order⟩

theorem scalarOfValue_valueOfScalar (s : Scalar) : scalarOfValue (valueOfScalar s) = .ok s := by
  cases s <;> rfl

end ConditionRegistry.Language
