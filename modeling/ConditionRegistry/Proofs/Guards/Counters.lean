import ConditionRegistry.Proofs.Guards.Parentheses
import ConditionRegistry.Proofs.Validation

set_option autoImplicit false

/-!
# The two counters of parentheses

The check of the balance keeps a signed counter that must not fall below zero. The check of the
depth keeps one that stays at zero where nothing is open. On balanced text they never differ, and
the depth of such a text is the height of its groups.
-/

namespace ConditionRegistry
namespace Guard

def balanceStep (balance : Int) (c : Char) : Int :=
  if c == '(' then balance + 1 else if c == ')' then balance - 1 else balance

def depthStep (depth : Nat) (c : Char) : Nat :=
  if c == '(' then depth + 1 else if c == ')' then depth - 1 else depth

/-- The signed counter behind a text that it comes to with the given value. -/
def balanceFrom (balance : Int) (s : List Char) : Int := s.foldl balanceStep balance

/-- The counter that does not fall below zero. -/
def depthFrom (depth : Nat) (s : List Char) : Nat := s.foldl depthStep depth

section Steps
variable (d : Nat) (s : List Char)

theorem balanceFrom_open : balanceFrom d ('(' :: s) = balanceFrom (d + 1 : Nat) s := rfl

theorem balanceFrom_close : balanceFrom (d + 1 : Nat) (')' :: s) = balanceFrom d s := by
  have hstep : balanceStep (d + 1 : Nat) ')' = d := by simp [balanceStep]
  rw [balanceFrom, List.foldl_cons, hstep]
  rfl

theorem not_nonneg_balanceFrom_unopened : ¬ 0 ≤ balanceFrom (0 : Nat) [')'] := by decide

theorem depthFrom_close : depthFrom d (')' :: s) = depthFrom (d - 1) s := rfl

variable {c : Char} (hopen : c ≠ '(') (hclose : c ≠ ')')
include hopen hclose

theorem balanceFrom_other : balanceFrom d (c :: s) = balanceFrom d s := by
  simp [balanceFrom, balanceStep, hopen, hclose]

theorem depthFrom_other : depthFrom d (c :: s) = depthFrom d s := by
  simp [depthFrom, depthStep, hopen, hclose]

end Steps

theorem forall_isPrefix_cons_iff {P : List Char → Prop} {c : Char} {r : List Char} :
    (∀ p, p <+: c :: r → P p) ↔ P [] ∧ ∀ p, p <+: r → P (c :: p) := by
  constructor
  · intro h
    exact ⟨h [] List.nil_prefix, fun p hp => h (c :: p) (List.cons_prefix_cons.2 ⟨rfl, hp⟩)⟩
  · rintro ⟨hnil, hcons⟩ p hp
    rcases List.prefix_cons_iff.1 hp with rfl | ⟨q, rfl, hq⟩
    · exact hnil
    · exact hcons q hq

/-! ### What the checks do with the counters -/

theorem balancedFrom_iff (d : Nat) (s : List Char) :
    balancedFrom d s = true ↔
      (∀ p, p <+: s → 0 ≤ balanceFrom d p) ∧ balanceFrom d s = 0 := by
  have hnow (d : Nat) : 0 ≤ balanceFrom d [] := Int.natCast_nonneg d
  induction d, s using counting with
  | nil d => simp [balancedFrom, balanceFrom]
  | opened d r ih =>
    rw [forall_isPrefix_cons_iff]
    simp only [balancedFrom_open, ih, balanceFrom_open, hnow, true_and]
  | closed d r ih =>
    rw [forall_isPrefix_cons_iff]
    simp only [balancedFrom_close, ih, balanceFrom_close, hnow, true_and]
  | unopened r =>
    refine iff_of_false (by simp [balancedFrom_close_zero]) fun h => ?_
    exact not_nonneg_balanceFrom_unopened (h.1 [')'] ⟨r, rfl⟩)
  | other d c r hopen hclose ih =>
    rw [forall_isPrefix_cons_iff]
    simp only [balancedFrom_other d r hopen hclose, ih, balanceFrom_other d _ hopen hclose, hnow,
      true_and]

theorem tooDeepFrom_iff {d : Nat} (hd : d ≤ maxDepth) (s : List Char) :
    tooDeepFrom d s = false ↔ ∀ p, p <+: s → depthFrom d p ≤ maxDepth := by
  induction d, s using counting with
  | nil d => simp [tooDeepFrom, depthFrom, hd]
  | opened d r ih =>
    rw [forall_isPrefix_cons_iff, tooDeepFrom_open, Bool.or_eq_false_iff, decide_eq_false_iff_not,
      Nat.not_lt]
    constructor
    · rintro ⟨hroom, hr⟩
      exact ⟨hd, (ih hroom).1 hr⟩
    · rintro ⟨-, hr⟩
      have hroom : d + 1 ≤ maxDepth := hr [] List.nil_prefix
      exact ⟨hroom, (ih hroom).2 hr⟩
  | closed d r ih =>
    have hr := ih (by omega)
    rw [forall_isPrefix_cons_iff, tooDeepFrom_close, Nat.add_sub_cancel, hr]
    exact ⟨fun h => ⟨hd, h⟩, fun h => h.2⟩
  | unopened r ih =>
    have hr := ih hd
    rw [forall_isPrefix_cons_iff, tooDeepFrom_close, Nat.zero_sub, hr]
    exact ⟨fun h => ⟨hd, h⟩, fun h => h.2⟩
  | other d c r hopen hclose ih =>
    have hr := ih hd
    rw [forall_isPrefix_cons_iff, tooDeepFrom_other d r hopen hclose, hr]
    simp only [depthFrom_other d _ hopen hclose]
    exact ⟨fun h => ⟨hd, h⟩, fun h => h.2⟩

/-- As long as the signed counter does not fall below zero, the two are the same. -/
theorem depthFrom_eq_balanceFrom (d : Nat) (s : List Char)
    (h : ∀ p, p <+: s → 0 ≤ balanceFrom d p) : (depthFrom d s : Int) = balanceFrom d s := by
  induction d, s using counting with
  | nil d => rfl
  | opened d r ih => exact ih (forall_isPrefix_cons_iff.1 h).2
  | closed d r ih =>
    have hr := (forall_isPrefix_cons_iff.1 h).2
    simp only [balanceFrom_close] at hr
    rw [depthFrom_close, Nat.add_sub_cancel, balanceFrom_close]
    exact ih hr
  | unopened r => exact absurd (h [')'] ⟨r, rfl⟩) not_nonneg_balanceFrom_unopened
  | other d c r hopen hclose ih =>
    have hr := (forall_isPrefix_cons_iff.1 h).2
    simp only [balanceFrom_other d _ hopen hclose] at hr
    rw [depthFrom_other d r hopen hclose, balanceFrom_other d r hopen hclose]
    exact ih hr

/-! ### The height of groups -/

namespace Groups

def height : Groups → Nat
  | none => 0
  | group inner after => max (inner.height + 1) after.height

theorem tooDeepFrom_append (g : Groups) {d : Nat} (hd : d ≤ maxDepth) (r : List Char) :
    tooDeepFrom d (g.text ++ r) = (decide (maxDepth < d + g.height) || tooDeepFrom d r) := by
  induction g generalizing d r with
  | none => simp [text, height, Nat.not_lt.2 hd]
  | group inner after ihi iha =>
    have hheight : maxDepth < d + (group inner after).height ↔
        maxDepth < d + 1 + inner.height ∨ maxDepth < d + after.height := by
      rw [height]
      omega
    rw [text, List.append_assoc, List.cons_append, List.cons_append, Guard.tooDeepFrom_open]
    by_cases hroom : d + 1 ≤ maxDepth
    · rw [ihi hroom, tooDeepFrom_close, Nat.add_sub_cancel, iha hd]
      simp [hheight, Nat.not_lt.2 hroom, Bool.or_assoc]
    · have hinner : maxDepth < d + 1 + inner.height := by omega
      simp [hheight, hinner, Nat.not_le.1 hroom]

end Groups

def GroupedWithin (n : Nat) (s : List Char) : Prop :=
  ∃ g : Groups, s.filter isParen = g.text ∧ g.height ≤ n

theorem isTooDeep_eq_false_iff_height {s : List Char} {g : Groups}
    (h : s.filter isParen = g.text) : isTooDeep s = false ↔ g.height ≤ maxDepth := by
  have htext := g.tooDeepFrom_append (Nat.zero_le maxDepth) []
  rw [List.append_nil] at htext
  rw [isTooDeep, ← tooDeepFrom_filter, h, htext]
  simp [tooDeepFrom]

theorem groupedWithin_maxDepth_iff (s : List Char) :
    GroupedWithin maxDepth s ↔ isBalanced s = true ∧ isTooDeep s = false := by
  rw [isBalanced_iff_grouped]
  constructor
  · rintro ⟨g, h, hheight⟩
    exact ⟨⟨g, h⟩, (isTooDeep_eq_false_iff_height h).2 hheight⟩
  · rintro ⟨⟨g, h⟩, hshallow⟩
    exact ⟨g, h, (isTooDeep_eq_false_iff_height h).1 hshallow⟩

end Guard

open Guard

/-- The check of the balance passes a text exactly if its parentheses are groups, which is when the
    signed counter never falls below zero and ends there. The check of the depth refuses it exactly
    if some part of it opens more than `maxDepth` more than it closes, which is when the other
    counter comes to more than that. On a text that passes the first check both counters are the
    same all along, and both checks pass exactly groups that are no higher than `maxDepth`. -/
theorem parentheses_checked (text : String) :
    (checkBalance text = .ok () ↔ Grouped text.toList) ∧
    (checkBalance text = .ok () ↔
      (∀ p, p <+: text.toList → 0 ≤ balanceFrom 0 p) ∧ balanceFrom 0 text.toList = 0) ∧
    (checkDepth text = .error .tooDeep ↔
      ∃ w, w <:+: text.toList ∧ w.count ')' + maxDepth < w.count '(') ∧
    (checkDepth text = .ok () ↔ ∀ p, p <+: text.toList → depthFrom 0 p ≤ maxDepth) ∧
    (checkBalance text = .ok () →
      ∀ p, p <+: text.toList → (depthFrom 0 p : Int) = balanceFrom 0 p) ∧
    (checkBalance text = .ok () ∧ checkDepth text = .ok () ↔
      GroupedWithin maxDepth text.toList) := by
  have hbalance : checkBalance text = .ok () ↔ isBalanced text.toList = true := by
    rw [checkBalance, refuseIf_eq_ok_iff, Bool.not_eq_false']
  have hdepth : checkDepth text = .ok () ↔ isTooDeep text.toList = false := refuseIf_eq_ok_iff
  have hsigned := balancedFrom_iff 0 text.toList
  refine ⟨hbalance.trans (isBalanced_iff_grouped _), hbalance.trans hsigned, ?_,
    hdepth.trans (tooDeepFrom_iff (Nat.zero_le _) _), ?_, ?_⟩
  · rw [checkDepth, refuseIf_eq_error_iff, ← Bool.not_eq_false, isTooDeep_eq_false_iff]
    simp only [not_forall, Nat.not_le, exists_prop]
  · intro h p hp
    have hnever := (hsigned.1 (hbalance.1 h)).1
    exact depthFrom_eq_balanceFrom 0 p fun q hq => hnever q (hq.trans hp)
  · rw [hbalance, hdepth, groupedWithin_maxDepth_iff]

/-- Groups after each other, within each other and in a string. -/
theorem parentheses_checked_siblings :
    checkBalance "((a) && f('()')) || (b)" = .ok () ∧
      ((depthFrom 0 "((a) && f('(".toList : Nat) : Int) = balanceFrom 0 "((a) && f('(".toList ∧
      depthFrom 0 "((a) && f('(".toList = 3 := by
  have hchecked := parentheses_checked "((a) && f('()')) || (b)"
  have hbalance : checkBalance "((a) && f('()')) || (b)" = .ok () := by decide +kernel
  exact ⟨hbalance, hchecked.2.2.2.2.1 hbalance _ ⟨")')) || (b)".toList, by decide +kernel⟩,
    by decide +kernel⟩

end ConditionRegistry
