import ConditionRegistry.Decimal.Integer
import ConditionRegistry.Decimal.Layout

set_option autoImplicit false

/-!
# Scalars

The values that variables are bound to and that conditions give back.
-/

namespace ConditionRegistry
open Decimal

inductive Scalar where
  | integer (n : Int64)
  | float (x : Float)
  | boolean (b : Bool)
  | string (s : String)
  deriving Repr

def Scalar.typeName : Scalar → String
  | .integer _ => "integer"
  | .float _ => "float"
  | .boolean _ => "boolean"
  | .string _ => "string"

def Scalar.text : Scalar → String
  | .integer n => String.ofList (integerText n.toInt)
  | .float x => String.ofList (Layout.display.write x)
  | .boolean b => if b then "true" else "false"
  | .string s => "'" ++ s ++ "'"

end ConditionRegistry
