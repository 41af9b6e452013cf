import ConditionRegistry.Proofs.Ledger

set_option autoImplicit false

/-!
# What operations insert

Only a save can insert a record, and which one it would be is clear from the save alone. Where no id
is brought twice, operations at different places insert records with different ids.
-/

namespace ConditionRegistry

def Operation.record? : Operation → Option Record
  | .save fresh name raw => some ⟨fresh, name, normalForm raw⟩
  | .get _ | .list | .evaluate _ _ | .validate _ => none

theorem freshIds_eq (ops : List Operation) :
    freshIds ops = ops.filterMap fun o => o.record?.map Record.id := by
  refine List.filterMap_congr fun o _ => ?_
  cases o <;> rfl

theorem id_ne_of_nodup {ops : List Operation} (hn : (freshIds ops).Nodup) {i j : Nat} (hij : i ≠ j)
    {o other : Operation} {e d : Record} (ho : ops[i]? = some o) (he : o.record? = some e)
    (hother : ops[j]? = some other) (hd : other.record? = some d) : e.id ≠ d.id := by
  rw [freshIds_eq, List.Nodup, List.pairwise_filterMap, List.pairwise_iff_getElem] at hn
  obtain ⟨hi, rfl⟩ := List.getElem?_eq_some_iff.1 ho
  obtain ⟨hj, rfl⟩ := List.getElem?_eq_some_iff.1 hother
  have he' := congrArg (Option.map Record.id) he
  have hd' := congrArg (Option.map Record.id) hd
  rcases Nat.lt_or_gt_of_ne hij with hlt | hlt
  · exact hn i j hi hj hlt e.id he' d.id hd'
  · exact (hn j i hj hi hlt d.id hd' e.id he').symm

end ConditionRegistry
