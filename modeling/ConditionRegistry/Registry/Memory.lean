import ConditionRegistry.Entries
import ConditionRegistry.Registry.Store

set_option autoImplicit false

/-!
# The store in memory

Records by id, the id that holds each text, and the ids in the order in which they came. An id that
comes again keeps its place.
-/

namespace ConditionRegistry.Registry

structure Memory where
  records : List (String × Record)
  /-- the id that was stored last with each text -/
  holders : List (String × String)
  order : List String
  deriving Repr

namespace Memory

def empty : Memory := ⟨[], [], []⟩

def findId (m : Memory) (id : String) : Option Record := m.records.lookup id

def findText (m : Memory) (text : String) : Option Record :=
  (m.holders.lookup text).bind m.findId

def insert (m : Memory) (e : Record) : Memory where
  records := put e.id e m.records
  holders := put e.text e.id m.holders
  order := if (m.findId e.id).isSome then m.order else m.order ++ [e.id]

def list (m : Memory) : List Record := m.order.filterMap m.findId

def handle : Plan.Handler StoreCall StoreCall.Reply Memory
  | .findText t, m => (.ok (m.findText t), m)
  | .findId id, m => (.ok (m.findId id), m)
  | .insert e, m => (.ok e, m.insert e)
  | .list, m => (.ok m.list, m)

theorem findId_insert (m : Memory) (e : Record) (id : String) :
    (m.insert e).findId id = if id = e.id then some e else m.findId id :=
  lookup_put e.id id e m.records

end Memory

end ConditionRegistry.Registry
