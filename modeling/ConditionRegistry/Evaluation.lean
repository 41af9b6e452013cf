import ConditionRegistry.Engine
import ConditionRegistry.Fault

set_option autoImplicit false

/-!
# Evaluation of conditions

A condition is a text that has been accepted before, so that it cannot be read is not the caller's
fault. Its value must be Boolean.
-/

namespace ConditionRegistry

abbrev Answer (α : Type) := Except (Stop Fault) α

def refuse {α : Type} (kind : FaultKind) (detail : String) : Answer α :=
  .error (.fault ⟨kind, detail⟩)

def noVariables : String := "Variables cannot be null or empty"

def truthOf : Scalar → Answer Bool
  | .boolean b => .ok b
  | v =>
    refuse .evaluation
      ("Expression did not return a boolean, got " ++ v.typeName ++ " " ++ v.text)

theorem truthOf_eq_ok_iff {v : Scalar} {t : Bool} : truthOf v = .ok t ↔ v = .boolean t := by
  cases v with
  | boolean u => simp [truthOf]
  | _ => simp [truthOf, refuse]

theorem truthOf_of_ne_boolean {v : Scalar} (h : ∀ t, v ≠ .boolean t) :
    truthOf v = refuse .evaluation
      ("Expression did not return a boolean, got " ++ v.typeName ++ " " ++ v.text) := by
  cases v with
  | boolean t => exact absurd rfl (h t)
  | _ => rfl

/-- Evaluation needs at least one variable, whether the condition has any or not. -/
def evaluate (E : Engine) (text : String) (b : Bindings) : Answer Bool :=
  if b.isEmpty then refuse .invalidArgument noVariables
  else
    match E.parse text with
    | .error detail => refuse .internal ("Stored expression failed to parse: " ++ detail)
    | .ok p =>
      match E.run p b with
      | .ok v => truthOf v
      | .error (.fault detail) => refuse .evaluation detail
      | .error .broken => .error .broken

theorem kind_of_evaluate {E : Engine} {text : String} {p : E.Program} {b : Bindings} {f : Fault}
    (hp : E.parse text = .ok p) (hb : b.isEmpty = false)
    (h : evaluate E text b = .error (.fault f)) : f.kind = .evaluation := by
  simp only [evaluate, hb, hp, Bool.false_eq_true, if_false] at h
  cases hrun : E.run p b with
  | error s =>
    rw [hrun] at h
    cases s with
    | fault detail =>
      cases h
      rfl
    | broken => cases h
  | ok v =>
    rw [hrun] at h
    cases v with
    | boolean t => cases h
    | _ =>
      cases h
      rfl

end ConditionRegistry
