import ConditionRegistry.Plan
import ConditionRegistry.Record

set_option autoImplicit false

/-!
# What a registry asks of its store
-/

namespace ConditionRegistry.Registry

inductive StoreCall where
  | findText (text : String)
  | findId (id : String)
  | insert (e : Record)
  | list
  deriving DecidableEq, Repr

def StoreCall.Reply : StoreCall → Type
  | .findText _ => Option Record
  | .findId _ => Option Record
  | .insert _ => Record
  | .list => List Record

abbrev StorePlan (α : Type) := Plan StoreCall StoreCall.Reply α

end ConditionRegistry.Registry
