import ConditionRegistry.Validation
import Mathlib.Tactic.SplitIfs

set_option autoImplicit false

/-!
# What validation accepts

A text passes as it stands if it is there, has no lone operator, has its parentheses balanced and
not too deep, and can be read. The check for a lone assignment never decides, since the check for
lone operators comes before it.
-/

namespace ConditionRegistry
open Guard

structure Acceptable (E : Engine) (text : String) : Prop where
  present : text.isEmpty = false
  paired : hasLoneOperator text.toList = false
  balanced : isBalanced text.toList = true
  shallow : isTooDeep text.toList = false
  readable : ∃ p, E.parse text = .ok p

theorem hasLoneAssignment_of_paired {s : List Char} (h : hasLoneOperator s = false) :
    hasLoneAssignment s = false := by
  cases ha : hasLoneAssignment s with
  | false => rfl
  | true => rw [hasLoneOperator_of_assignment s ha] at h; exact h

theorem refuseIf_eq_ok_iff {b : Bool} {r : Refusal} : refuseIf b r = .ok () ↔ b = false := by
  cases b <;> simp [refuseIf]

theorem refuseIf_eq_error_iff {b : Bool} {r : Refusal} : refuseIf b r = .error r ↔ b = true := by
  cases b <;> simp [refuseIf]

def guards (text : String) : Except Refusal Unit := do
  refuseIf text.isEmpty .blank
  checkOperators text
  checkAssignment text
  checkBalance text
  checkDepth text

/-- The guards as one decision. -/
theorem guards_eq (text : String) :
    guards text =
      if text.isEmpty then .error .blank
      else if hasLoneOperator text.toList then .error .loneOperator
      else if !isBalanced text.toList then .error .unbalanced
      else if isTooDeep text.toList then .error .tooDeep
      else .ok () := by
  unfold guards checkOperators checkAssignment checkBalance checkDepth refuseIf
  cases text.isEmpty with
  | true => rfl
  | false =>
    cases ho : hasLoneOperator text.toList with
    | true => rfl
    | false =>
      rw [hasLoneAssignment_of_paired ho]
      cases isBalanced text.toList with
      | false => rfl
      | true => rfl

theorem Examination.ofExcept_bind {α β γ : Type} (x : Except Refusal α)
    (f : α → Except Refusal β) (g : β → Examination γ) :
    (ofExcept (x >>= f) >>= g) = ofExcept x >>= fun a => ofExcept (f a) >>= g := by
  cases x <;> rfl

theorem examineNormal_eq (text : String) :
    examineNormal text = Examination.ofExcept (guards text) >>= fun _ => examineSyntax text := by
  unfold guards
  simp only [Examination.ofExcept_bind]
  rfl

theorem checkNormal_eq_guards_bind (E : Engine) (text : String) :
    checkNormal E text = guards text >>= fun _ => checkSyntax E text := by
  rw [checkNormal, examineNormal_eq]
  cases guards text <;> rfl

theorem checkNormal_eq (E : Engine) (text : String) :
    checkNormal E text =
      if text.isEmpty then .error .blank
      else if hasLoneOperator text.toList then .error .loneOperator
      else if !isBalanced text.toList then .error .unbalanced
      else if isTooDeep text.toList then .error .tooDeep
      else checkSyntax E text := by
  rw [checkNormal_eq_guards_bind, guards_eq]
  split_ifs <;> rfl

theorem checkSyntax_eq (E : Engine) (text : String) :
    checkSyntax E text = ((E.parse text).map fun _ => ()).mapError .unreadable := by
  rw [checkSyntax, examineSyntax, Examination.run]
  cases E.parse text <;> rfl

theorem checkSyntax_eq_ok_iff (E : Engine) (text : String) :
    checkSyntax E text = .ok () ↔ ∃ p, E.parse text = .ok p := by
  rw [checkSyntax_eq]
  cases E.parse text <;> simp [Except.map, Except.mapError]

theorem checkNormal_eq_ok_iff (E : Engine) (text : String) :
    checkNormal E text = .ok () ↔ Acceptable E text := by
  rw [checkNormal_eq]
  constructor
  · intro h
    split_ifs at h with h1 h2 h3 h4
    exact ⟨by simpa using h1, by simpa using h2, by simpa using h3, by simpa using h4,
      (checkSyntax_eq_ok_iff E text).1 h⟩
  · intro h
    simp only [h.present, h.paired, h.balanced, h.shallow, Bool.not_true, Bool.false_eq_true,
      if_false]
    exact (checkSyntax_eq_ok_iff E text).2 h.readable

theorem kind_of_checkNormal_eq_error {E : Engine} {text : String} {r : Refusal}
    (hp : text.isEmpty = false) (h : checkNormal E text = .error r) :
    r.fault.kind = .invalidSyntax := by
  rw [checkNormal_eq, hp] at h
  simp only [Bool.false_eq_true, if_false] at h
  split_ifs at h
  · cases h; rfl
  · cases h; rfl
  · cases h; rfl
  · rw [checkSyntax_eq] at h
    cases hparse : E.parse text with
    | ok p => rw [hparse] at h; cases h
    | error detail => rw [hparse] at h; cases h; rfl

theorem kind_of_refusal (r : Refusal) :
    r.fault.kind = .invalidArgument ∨ r.fault.kind = .invalidSyntax := by
  cases r <;> simp [Refusal.fault]

theorem normalize_eq_ok_iff (raw text : String) :
    normalize raw = .ok text ↔ raw.isEmpty = false ∧ normalForm raw = text := by
  unfold normalize
  cases raw.isEmpty <;> simp

theorem check_eq (E : Engine) (raw : String) :
    check E raw =
      if raw.isEmpty then .error .missing else checkNormal E (normalForm raw) := by
  unfold check examine normalize
  generalize normalForm raw = text
  cases raw.isEmpty <;> rfl

theorem check_eq_ok_iff (E : Engine) (raw : String) :
    check E raw = .ok () ↔ raw.isEmpty = false ∧ Acceptable E (normalForm raw) := by
  rw [check_eq, ← checkNormal_eq_ok_iff]
  cases raw.isEmpty <;> simp

end ConditionRegistry
