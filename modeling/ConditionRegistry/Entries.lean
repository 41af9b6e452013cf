set_option autoImplicit false

/-!
# Entries under keys

A list of keys and values in which a key that is put again keeps its place and takes the new value.
-/

namespace ConditionRegistry

variable {κ α : Type} [DecidableEq κ]

def put (k : κ) (v : α) : List (κ × α) → List (κ × α)
  | [] => [(k, v)]
  | e :: r => if e.1 = k then (k, v) :: r else e :: put k v r

theorem lookup_cons_eq_ite (k other : κ) (v : α) (es : List (κ × α)) :
    ((k, v) :: es).lookup other = if other = k then some v else es.lookup other := by
  by_cases h : other = k
  · simp [h]
  · simp [List.lookup_cons, h, beq_false_of_ne h]

theorem lookup_map_snd {β : Type} (f : α → β) (es : List (κ × α)) (k : κ) :
    (es.map fun e => (e.1, f e.2)).lookup k = (es.lookup k).map f := by
  induction es with
  | nil => rfl
  | cons e r ih =>
    obtain ⟨j, v⟩ := e
    rw [List.map_cons, lookup_cons_eq_ite, lookup_cons_eq_ite, ih]
    split <;> rfl

theorem lookup_put (k other : κ) (v : α) (es : List (κ × α)) :
    (put k v es).lookup other = if other = k then some v else es.lookup other := by
  induction es with
  | nil => exact lookup_cons_eq_ite k other v []
  | cons e r ih =>
    obtain ⟨j, w⟩ := e
    by_cases hj : j = k
    · subst hj
      by_cases h : other = j <;> simp [put, lookup_cons_eq_ite, h]
    · by_cases h : other = j
      · subst h
        simp [put, hj]
      · simp [put, hj, lookup_cons_eq_ite, h, ih]

end ConditionRegistry
