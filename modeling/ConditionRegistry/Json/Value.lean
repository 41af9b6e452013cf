set_option autoImplicit false

/-!
# JSON values

An object has its members in the order of their names, each name once.
-/

namespace ConditionRegistry.Json

inductive Number where
  /-- of 64 bits, with or without sign -/
  | integer (n : Int)
  | double (x : Float)
  deriving Repr

inductive Value where
  | null
  | bool (b : Bool)
  | number (n : Number)
  | string (s : String)
  | array (items : List Value)
  | object (members : List (String × Value))
  deriving Repr

/-- A member takes the place of one with the same name, or else its place in the order. -/
def insertMember {α : Type} (name : String) (v : α) : List (String × α) → List (String × α)
  | [] => [(name, v)]
  | m :: r =>
    if name = m.1 then (name, v) :: r
    else if name < m.1 then (name, v) :: m :: r
    else m :: insertMember name v r

/-- Of several members with one name the last counts. -/
def sortMembers {α : Type} (ms : List (String × α)) : List (String × α) :=
  ms.foldl (fun done m => insertMember m.1 m.2 done) []

end ConditionRegistry.Json
