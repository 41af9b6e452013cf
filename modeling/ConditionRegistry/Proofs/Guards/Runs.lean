import ConditionRegistry.Proofs.Guards
import ConditionRegistry.Proofs.Validation

set_option autoImplicit false

/-!
# Runs of operator characters

The guard of operators looks at the neighbours of single characters. What it decides is a matter of
whole runs: no `&`, `|` or `=` is a run of its own, where `=` runs with all characters of
comparisons.
-/

namespace ConditionRegistry
namespace Guard

/-- A run of a class of characters, with what stands before and after it. It is as long as can be:
    the characters next to it are not of the class. -/
structure Run (p : Char → Bool) (before w after : List Char) : Prop where
  nonempty : w ≠ []
  inside : ∀ c ∈ w, p c = true
  left : ∀ c ∈ before.getLast?, p c = false
  right : ∀ c ∈ after.head?, p c = false

def HasRun (p : Char → Bool) (s w : List Char) : Prop :=
  ∃ before after, s = before ++ w ++ after ∧ Run p before w after

/-- No operator that has to be doubled is a run of its own. -/
structure Paired (s : List Char) : Prop where
  ands : ∀ w, HasRun (· == '&') s w → w.length ≠ 1
  ors : ∀ w, HasRun (· == '|') s w → w.length ≠ 1
  equals : ∀ w, HasRun isComparisonChar s w → w ≠ ['=']

section Alone
variable {c : Char} {joins : Char → Bool}

/-- The place where a character stands alone. `before` stands before the whole text. -/
theorem standsAlone_iff (before : Option Char) (s : List Char) :
    standsAlone c joins before s = true ↔
      ∃ u v, s = u ++ c :: v ∧ (∀ d ∈ u.getLast?.or before, joins d = false) ∧
        ∀ d ∈ v.head?, joins d = false := by
  induction s generalizing before with
  | nil => simp [standsAlone]
  | cons d r ih =>
    rw [standsAlone, Bool.or_eq_true, ih]
    constructor
    · rintro (hhere | ⟨u, v, rfl, hu, hv⟩)
      · simp only [Bool.and_eq_true, beq_iff_eq, Bool.not_eq_true', Option.any_eq_false] at hhere
        obtain ⟨⟨rfl, hbefore⟩, hr⟩ := hhere
        exact ⟨[], r, rfl, by simpa using hbefore, by simpa using hr⟩
      · refine ⟨d :: u, v, rfl, ?_, hv⟩
        -- what stands before the rest is the last of `d :: u`, or `d` where `u` is empty
        rwa [getLast?_cons_or]
    · rintro ⟨u, v, hs, hu, hv⟩
      cases u with
      | nil =>
        obtain ⟨rfl, rfl⟩ := List.cons.inj hs
        rw [List.getLast?_nil, Option.none_or] at hu
        left
        simp only [beq_self_eq_true, Bool.true_and, Bool.and_eq_true, Bool.not_eq_true',
          Option.any_eq_false]
        exact ⟨by simpa using hu, by simpa using hv⟩
      | cons a u =>
        obtain ⟨rfl, rfl⟩ := List.cons.inj hs
        right
        rw [getLast?_cons_or] at hu
        exact ⟨u, v, rfl, hu, hv⟩

variable (joins) in
theorem standsAlone_iff_hasRun (hc : joins c = true) (s : List Char) :
    standsAlone c joins none s = true ↔ HasRun joins s [c] := by
  rw [standsAlone_iff]
  constructor
  · rintro ⟨u, v, rfl, hu, hv⟩
    rw [Option.or_none] at hu
    exact ⟨u, v, by simp, List.cons_ne_nil c [], by simpa using hc, hu, hv⟩
  · rintro ⟨u, v, rfl, hrun⟩
    refine ⟨u, v, by simp, ?_, hrun.right⟩
    rw [Option.or_none]
    exact hrun.left

end Alone

theorem hasLone_eq_false_iff (c : Char) (s : List Char) :
    hasLone c s = false ↔ ∀ w, HasRun (· == c) s w → w.length ≠ 1 := by
  have halone : standsAlone c (· == c) none s = true ↔ HasRun (· == c) s [c] :=
    standsAlone_iff_hasRun (· == c) (beq_self_eq_true c) s
  rw [hasLone, ← Bool.not_eq_true, halone]
  constructor
  · intro hno w hw hlength
    obtain ⟨d, rfl⟩ := List.length_eq_one_iff.1 hlength
    have hd : d = c := by
      obtain ⟨before, after, -, hrun⟩ := hw
      simpa using hrun.inside d (List.mem_singleton_self d)
    rw [hd] at hw
    exact hno hw
  · intro h hw
    exact h [c] hw rfl

theorem hasLoneAssignment_eq_false_iff (s : List Char) :
    hasLoneAssignment s = false ↔ ∀ w, HasRun isComparisonChar s w → w ≠ ['='] := by
  rw [hasLoneAssignment, ← Bool.not_eq_true, standsAlone_iff_hasRun isComparisonChar (by decide)]
  constructor
  · rintro hno w hw rfl
    exact hno hw
  · intro h hw
    exact h _ hw rfl

theorem hasLoneOperator_eq_false_iff (s : List Char) : hasLoneOperator s = false ↔ Paired s := by
  rw [hasLoneOperator, Bool.or_eq_false_iff, Bool.or_eq_false_iff, hasLoneAssignment_eq_false_iff,
    hasLone_eq_false_iff, hasLone_eq_false_iff]
  constructor
  · rintro ⟨⟨hequals, hands⟩, hors⟩
    exact ⟨hands, hors, hequals⟩
  · rintro ⟨hands, hors, hequals⟩
    exact ⟨⟨hequals, hands⟩, hors⟩

end Guard

open Guard

/-! ### The check of assignments -/

theorem eq_loneAssignment_of_text {r : Refusal}
    (h : r.fault.text = "Invalid operator '=' found. Use '==' for comparisons.") :
    r = .loneAssignment := by
  cases r with
  | loneAssignment => rfl
  | missing | blank | loneOperator | unbalanced | tooDeep => exact absurd h (by decide +kernel)
  | unreadable detail =>
    have hletter := congrArg (fun t : String => t.toList[8]?) h
    simp [Fault.text, Refusal.fault, FaultKind.preface] at hletter

theorem checkNormal_ne_loneAssignment (E : Engine) (text : String) :
    checkNormal E text ≠ .error .loneAssignment := by
  rw [checkNormal_eq]
  split_ifs
  · simp
  · simp
  · simp
  · simp
  · rw [checkSyntax_eq]
    cases E.parse text <;> simp [Except.map, Except.mapError]

theorem check_ne_loneAssignment (E : Engine) (raw : String) :
    check E raw ≠ .error .loneAssignment := by
  rw [check_eq]
  split_ifs
  · simp
  · exact checkNormal_ne_loneAssignment E _

/-- The check of operators passes a text exactly if no `&` and no `|` is a run of its own and no
    `=` stands apart from all characters of comparisons. What passes it passes the check of
    assignments too, so no text is ever refused with the words of that check, by no engine. -/
theorem operators_checked (text : String) :
    (checkOperators text = .ok () ↔
      (∀ w, HasRun (· == '&') text.toList w → w.length ≠ 1) ∧
      (∀ w, HasRun (· == '|') text.toList w → w.length ≠ 1) ∧
      ∀ w, HasRun isComparisonChar text.toList w → w ≠ ['=']) ∧
    (checkOperators text = .ok () → checkAssignment text = .ok ()) ∧
    ∀ (E : Engine) (r : Refusal), check E text = .error r ∨ checkNormal E text = .error r →
      r.fault.text ≠ "Invalid operator '=' found. Use '==' for comparisons." := by
  have hoperators : checkOperators text = .ok () ↔ hasLoneOperator text.toList = false :=
    refuseIf_eq_ok_iff
  rw [hoperators]
  refine ⟨?_, fun h => refuseIf_eq_ok_iff.2 (hasLoneAssignment_of_paired h), ?_⟩
  · rw [hasLoneOperator_eq_false_iff]
    constructor
    · intro h
      exact ⟨h.ands, h.ors, h.equals⟩
    · rintro ⟨hands, hors, hequals⟩
      exact ⟨hands, hors, hequals⟩
  · intro E r hr htext
    obtain rfl := eq_loneAssignment_of_text htext
    exact hr.elim (check_ne_loneAssignment E text) (checkNormal_ne_loneAssignment E text)

/-- Runs at both ends, of three characters and of different ones. -/
theorem operators_checked_mixedRuns :
    checkOperators "=!é &&& x <=> |||" = .ok () ∧ checkAssignment "=!é &&& x <=> |||" = .ok () ∧
      ∀ w, HasRun isComparisonChar "=!é &&& x <=> |||".toList w → w ≠ ['='] := by
  have hchecked := operators_checked "=!é &&& x <=> |||"
  have hok : checkOperators "=!é &&& x <=> |||" = .ok () := by decide +kernel
  exact ⟨hok, hchecked.2.1 hok, (hchecked.1.1 hok).2.2⟩

end ConditionRegistry
