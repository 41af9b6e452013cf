import ConditionRegistry.Guard.Operators
import ConditionRegistry.Guard.Parentheses
import ConditionRegistry.Proofs.NormalForm

set_option autoImplicit false

/-!
# What the guards pass over

A part of a text that has no lone character keeps the look-behind of the guard at its last
character, and parentheses are counted in the parts that have some. Operators between spaces pass
both guards.
-/

namespace ConditionRegistry
open Guard

theorem getLast?_cons_or (c : Char) (w : List Char) (before : Option Char) :
    (c :: w).getLast?.or before = w.getLast?.or (some c) := by
  rw [List.getLast?_cons]
  cases w.getLast? <;> rfl

/-- Text that has no lone character of a kind, whatever stands around it. -/
def Quiet (c : Char) (joins : Char → Bool) (w : List Char) : Prop :=
  ∀ before r, standsAlone c joins before (w ++ r) = standsAlone c joins (w.getLast?.or before) r

namespace Quiet
variable {c : Char} {joins : Char → Bool}

theorem append {w v : List Char} (hw : Quiet c joins w) (hv : Quiet c joins v) :
    Quiet c joins (w ++ v) := by
  intro before r
  rw [List.append_assoc, hw, hv, List.getLast?_append, Option.or_assoc]

theorem of_notMem {w : List Char} (h : c ∉ w) : Quiet c joins w := by
  induction w with
  | nil => exact fun _ _ => rfl
  | cons d v ih =>
    rw [List.mem_cons, not_or] at h
    intro before r
    have hd : (d == c) = false := beq_false_of_ne (Ne.symm h.1)
    rw [List.cons_append, standsAlone, hd, ih h.2, getLast?_cons_or]
    rfl

theorem joined {d : Char} (hc : joins c = true) (hd : joins d = true) : Quiet c joins [d, c] := by
  intro before r
  simp [standsAlone, hc, hd]

theorem operator (k j : Keyword) : Quiet k.mark (· == k.mark) (' ' :: j.operator ++ [' ']) := by
  intro before r
  cases k <;> cases j <;> simp [Keyword.operator, Keyword.mark, standsAlone]

theorem standsAlone_eq_false {w : List Char} (h : Quiet c joins w) :
    standsAlone c joins none w = false := by
  have hw := h none []
  rw [List.append_nil] at hw
  rw [hw]
  cases w.getLast?.or none <;> rfl

end Quiet

section Parentheses
variable {s : List Char} (h : '(' ∉ s ∧ ')' ∉ s) (d : Nat) (r : List Char)
include h

theorem balancedFrom_append : balancedFrom d (s ++ r) = balancedFrom d r := by
  induction s with
  | nil => rfl
  | cons c t ih =>
    simp only [List.mem_cons, not_or] at h
    rw [List.cons_append, balancedFrom_other d _ (Ne.symm h.1.1) (Ne.symm h.2.1)]
    exact ih ⟨h.1.2, h.2.2⟩

theorem tooDeepFrom_append : tooDeepFrom d (s ++ r) = tooDeepFrom d r := by
  induction s with
  | nil => rfl
  | cons c t ih =>
    simp only [List.mem_cons, not_or] at h
    rw [List.cons_append, tooDeepFrom_other d _ (Ne.symm h.1.1) (Ne.symm h.2.1)]
    exact ih ⟨h.1.2, h.2.2⟩

end Parentheses

end ConditionRegistry
