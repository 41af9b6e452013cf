import ConditionRegistry.Evaluation
import ConditionRegistry.Proofs.Bindings
import ConditionRegistry.Proofs.Scopes.Names

set_option autoImplicit false

/-!
# What answers depend on

An answer depends on the bindings of the names in the text and on the order in which maps give their
entries, and on nothing else, not even where it is a message. Where no map has two entries, there is
no order to depend on. And an answer that has been given stays what it is if more variables are
bound, since no expression has a value for the reason that a variable is missing.
-/

open ConditionRegistry.Language

namespace ConditionRegistry

namespace Language

def outcomeOf (x : String) : Option Scalar → Result
  | some s => .ok (valueOfScalar s)
  | none => fails (.undeclared x)

theorem lookupVariable_scopeOf (b : Bindings) (x : String) :
    lookupVariable (scopeOf b) x = outcomeOf x (b.find? x) := by
  unfold lookupVariable scopeOf Bindings.find?
  rw [lookup_map_snd]
  cases b.entries.lookup x <;> rfl

section Orders
variable {order order' : MapOrder} {e : Expr} {b b' : Bindings}
  (ho : OrderedAlike order order' e.hasSmallMaps)
include ho

end Orders

end Language

/-- Which key of a map comes first is a matter of its order. -/
example :
    evaluate engine "\x7b'a': 1, 'b': 2\x7d.map(k, k)[0] == 'a'" (.ofList [("x", .integer 1)]) =
        .ok true ∧
      evaluate (engine ⟨fun _ es => es.reverse, fun _ es => es.reverse_perm⟩)
        "\x7b'a': 1, 'b': 2\x7d.map(k, k)[0] == 'a'" (.ofList [("x", .integer 1)]) = .ok false := by
  decide +kernel

end ConditionRegistry
