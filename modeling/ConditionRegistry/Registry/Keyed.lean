import ConditionRegistry.Registry.Store
import ConditionRegistry.Registry.Table

set_option autoImplicit false

/-!
# The store on a table

A record lies under a key made from its id, the id under a key made from the text, and all ids are
members of one set. A record is written before anything that refers to it.
-/

namespace ConditionRegistry.Registry

def recordKey (id : String) : String := "expression:" ++ id

def textKey (text : String) : String := "expression:text:" ++ text

def allKey : String := "expressions:all"

namespace Keyed

def decode (json : String) : TablePlan Record :=
  match Record.ofJson? json.toList with
  | some e => .done e
  | none => Plan.fail .json "not a record"

def findId (id : String) : TablePlan (Option Record) :=
  .call (.get (recordKey id)) fun
    | none => .done none
    | some json => (decode json).bind fun e => .done (some e)

def findText (text : String) : TablePlan (Option Record) :=
  .call (.get (textKey text)) fun
    | none => .done none
    | some id => findId id

def insert (e : Record) : TablePlan Record :=
  .call (.set (recordKey e.id) (String.ofList e.json)) fun _ =>
    .call (.set (textKey e.text) e.id) fun _ =>
      .call (.add allKey e.id) fun _ => .done e

/-- Ids without a record are left out. -/
def collect : List String → TablePlan (List Record)
  | [] => .done []
  | id :: r =>
    (findId id).bind fun e => (collect r).bind fun es => .done (e.toList ++ es)

def list : TablePlan (List Record) := .call (.members allKey) collect

def carry : (c : StoreCall) → TablePlan c.Reply
  | .findText t => findText t
  | .findId id => findId id
  | .insert e => insert e
  | .list => list

end Keyed

end ConditionRegistry.Registry
