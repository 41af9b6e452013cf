import ConditionRegistry.Json.Fields
import ConditionRegistry.Json.Printer

set_option autoImplicit false

/-!
# Records

An accepted condition with its id and its name. A record is kept as a JSON object.
-/

namespace ConditionRegistry
open Json

structure Record where
  id : String
  name : String
  /-- in normal form -/
  text : String
  deriving DecidableEq, Repr

namespace Record

def fieldNames : List String := ["id", "name", "expression"]

def json (e : Record) : List Char :=
  objectText [("id", quoted e.id), ("name", quoted e.name), ("expression", quoted e.text)]

def ofJson? (s : List Char) : Option Record :=
  match readFields fieldNames stringField s with
  | .ok found => do
    let id ← found.lookup "id"
    let name ← found.lookup "name"
    let text ← found.lookup "expression"
    some ⟨id, name, text⟩
  | .error _ => none

end Record

end ConditionRegistry
