import ConditionRegistry.Entries
import ConditionRegistry.Scalar

set_option autoImplicit false

/-!
# Bindings

Scalars under different names.
-/

namespace ConditionRegistry

structure Bindings where
  entries : List (String × Scalar)
  deriving Repr

namespace Bindings

def empty : Bindings := ⟨[]⟩

def isEmpty (b : Bindings) : Bool := b.entries.isEmpty

def find? (b : Bindings) (name : String) : Option Scalar := b.entries.lookup name

def insert (b : Bindings) (name : String) (v : Scalar) : Bindings := ⟨put name v b.entries⟩

/-- Later entries take the place of earlier ones with the same name. -/
def ofList (es : List (String × Scalar)) : Bindings :=
  es.foldl (fun b e => b.insert e.1 e.2) empty

theorem find?_empty (name : String) : empty.find? name = none := rfl

theorem find?_insert (b : Bindings) (name other : String) (v : Scalar) :
    (b.insert name v).find? other = if other = name then some v else b.find? other :=
  lookup_put name other v b.entries

end Bindings

end ConditionRegistry
