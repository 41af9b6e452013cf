import ConditionRegistry.Language.Engine
import ConditionRegistry.Proofs.Guards.Counters
import ConditionRegistry.Proofs.Guards.Runs
import ConditionRegistry.Service

set_option autoImplicit false

/-!
# What texts are refused for

A blank text is refused for not being there, and any other for the first thing that is wrong with
its normal form: a lone operator, parentheses without a partner, parentheses too deep, or that the
engine cannot read it. The engine is given a text only when nothing else is wrong with it.
-/

namespace ConditionRegistry
open Guard Text

structure Guarded (text : String) : Prop where
  present : text ≠ ""
  paired : Paired text.toList
  grouped : GroupedWithin maxDepth text.toList

/-- What is told of the first thing that is wrong with a text. -/
inductive FirstFault (E : Engine) (text : String) : Fault → Prop
  | loneOperator (h : ¬ Paired text.toList) :
    FirstFault E text ⟨.invalidSyntax, "Invalid operator or syntax found in expression."⟩
  | unbalanced (hpaired : Paired text.toList) (h : ¬ Grouped text.toList) :
    FirstFault E text ⟨.invalidSyntax, "Unbalanced parentheses in expression."⟩
  | tooDeep (hpaired : Paired text.toList) (hgrouped : Grouped text.toList)
      (h : ¬ GroupedWithin maxDepth text.toList) :
    FirstFault E text
      ⟨.invalidSyntax, "Expression nesting is too deep (maximum 32 levels)."⟩
  | unreadable (hpaired : Paired text.toList) (hgrouped : GroupedWithin maxDepth text.toList)
      {detail : String} (h : E.parse text = .error detail) :
    FirstFault E text ⟨.invalidSyntax, "Invalid expression syntax: " ++ detail⟩

/-! ### The guards one by one -/

section Guards
variable {text : String} (hpresent : text ≠ "")
include hpresent

theorem guards_of_not_paired (h : ¬ Paired text.toList) : guards text = .error .loneOperator := by
  have hlone : hasLoneOperator text.toList = true := by
    rwa [← Bool.not_eq_false, hasLoneOperator_eq_false_iff]
  rw [guards_eq]
  simp [hpresent, hlone]

variable (hpaired : Paired text.toList)
include hpaired

theorem guards_of_not_grouped (h : ¬ Grouped text.toList) : guards text = .error .unbalanced := by
  have hlone := (hasLoneOperator_eq_false_iff _).2 hpaired
  have hbalance : isBalanced text.toList = false := by
    rwa [← Bool.not_eq_true, isBalanced_iff_grouped]
  rw [guards_eq]
  simp [hpresent, hlone, hbalance]

theorem guards_of_not_groupedWithin (hgrouped : Grouped text.toList)
    (h : ¬ GroupedWithin maxDepth text.toList) : guards text = .error .tooDeep := by
  have hlone := (hasLoneOperator_eq_false_iff _).2 hpaired
  have hbalance := (isBalanced_iff_grouped _).2 hgrouped
  have hdeep : isTooDeep text.toList = true := by
    rw [← Bool.not_eq_false]
    exact fun hshallow => h ((groupedWithin_maxDepth_iff _).2 ⟨hbalance, hshallow⟩)
  rw [guards_eq]
  simp [hpresent, hlone, hbalance, hdeep]

end Guards

theorem guards_eq_ok_iff (text : String) : guards text = .ok () ↔ Guarded text := by
  constructor
  · intro h
    rw [guards_eq] at h
    split_ifs at h with hpresent hlone hbalance hdeep
    refine ⟨by simpa using hpresent, (hasLoneOperator_eq_false_iff _).1 (by simpa using hlone), ?_⟩
    exact (groupedWithin_maxDepth_iff _).2 ⟨by simpa using hbalance, by simpa using hdeep⟩
  · intro h
    have hlone := (hasLoneOperator_eq_false_iff _).2 h.paired
    obtain ⟨hbalance, hshallow⟩ := (groupedWithin_maxDepth_iff _).1 h.grouped
    rw [guards_eq]
    simp [h.present, hlone, hbalance, hshallow]

/-! ### What is told -/

section Faults
variable {E : Engine} {text : String}

theorem checkNormal_of_guarded (h : Guarded text) : checkNormal E text = checkSyntax E text := by
  rw [checkNormal_eq_guards_bind, (guards_eq_ok_iff text).2 h]
  rfl

theorem checkNormal_of_guards_eq_error {r : Refusal} (h : guards text = .error r) :
    checkNormal E text = .error r := by
  rw [checkNormal_eq_guards_bind, h]
  rfl

variable (hpresent : text ≠ "")
include hpresent

theorem firstFault_of_refused {r : Refusal} (h : checkNormal E text = .error r) :
    FirstFault E text r.fault := by
  by_cases hpaired : Paired text.toList
  · by_cases hgrouped : Grouped text.toList
    · by_cases hwithin : GroupedWithin maxDepth text.toList
      · rw [checkNormal_of_guarded ⟨hpresent, hpaired, hwithin⟩, checkSyntax_eq] at h
        cases hparse : E.parse text with
        | ok p =>
          rw [hparse] at h
          cases h
        | error detail =>
          rw [hparse] at h
          cases h
          exact .unreadable hpaired hwithin hparse
      · rw [checkNormal_of_guards_eq_error
          (guards_of_not_groupedWithin hpresent hpaired hgrouped hwithin)] at h
        cases h
        exact .tooDeep hpaired hgrouped hwithin
    · rw [checkNormal_of_guards_eq_error (guards_of_not_grouped hpresent hpaired hgrouped)] at h
      cases h
      exact .unbalanced hpaired hgrouped
  · rw [checkNormal_of_guards_eq_error (guards_of_not_paired hpresent hpaired)] at h
    cases h
    exact .loneOperator hpaired

theorem refused_of_firstFault {f : Fault} (h : FirstFault E text f) :
    ofCheck (checkNormal E text) = .error (.fault f) := by
  cases h with
  | loneOperator h =>
    rw [checkNormal_of_guards_eq_error (guards_of_not_paired hpresent h)]
    rfl
  | unbalanced hpaired h =>
    rw [checkNormal_of_guards_eq_error (guards_of_not_grouped hpresent hpaired h)]
    rfl
  | tooDeep hpaired hgrouped h =>
    rw [checkNormal_of_guards_eq_error (guards_of_not_groupedWithin hpresent hpaired hgrouped h)]
    rfl
  | unreadable hpaired hgrouped h =>
    rw [checkNormal_of_guarded ⟨hpresent, hpaired, hgrouped⟩, checkSyntax_eq, h]
    rfl

end Faults

/-! ### What the engine is given -/

/-- The text that the engine is given, if nothing else is wrong with it. -/
def vetted (raw : String) : Except Refusal String := do
  let text ← normalize raw
  (guards text).map fun _ => text

section Vetted
variable {raw text : String}

theorem vetted_of_normalize (h : normalize raw = .ok text) :
    vetted raw = (guards text).map fun _ => text := by
  rw [vetted, h]
  rfl

/-- Nothing but a vetted text is left for the engine. -/
theorem examine_eq (raw : String) :
    examine raw = Examination.ofExcept (vetted raw) >>= examineSyntax := by
  cases hn : normalize raw with
  | error r =>
    rw [examine, vetted, hn]
    rfl
  | ok text =>
    have hexamine : examine raw = examineNormal text := by
      rw [examine, hn]
      rfl
    rw [hexamine, vetted_of_normalize hn, examineNormal_eq]
    cases guards text <;> rfl

theorem of_vetted (h : vetted raw = .ok text) : normalForm raw = text ∧ Guarded text := by
  cases hn : normalize raw with
  | error r =>
    rw [vetted, hn] at h
    cases h
  | ok t =>
    rw [vetted_of_normalize hn] at h
    cases hg : guards t with
    | error r =>
      rw [hg] at h
      cases h
    | ok u =>
      rw [hg] at h
      obtain rfl : t = text := Except.ok.inj h
      exact ⟨((normalize_eq_ok_iff raw t).1 hn).2, (guards_eq_ok_iff t).1 hg⟩

end Vetted

theorem run_examineSyntax (E : Engine) (text : String) :
    (examineSyntax text).run E = (checkSyntax E text, [text]) := by
  rw [checkSyntax, examineSyntax, Examination.run]
  cases E.parse text <;> rfl

theorem of_mem_given {E : Engine} {raw text : String} (h : text ∈ ((examine raw).run E).2) :
    text = normalForm raw ∧ Guarded text := by
  rw [examine_eq] at h
  cases hv : vetted raw with
  | error r =>
    rw [hv] at h
    cases h
  | ok t =>
    have hrun : (Examination.ofExcept (.ok t) >>= examineSyntax).run E = (checkSyntax E t, [t]) :=
      run_examineSyntax E t
    rw [hv, hrun] at h
    obtain ⟨hnormal, hguarded⟩ := of_vetted hv
    obtain rfl : text = t := List.mem_singleton.1 h
    exact ⟨hnormal.symm, hguarded⟩

/-- Engines that agree on the texts that one of them is given come to the same. -/
theorem Examination.run_congr {α : Type} {E F : Engine} (x : Examination α)
    (h : ∀ text ∈ (x.run E).2,
      (E.parse text).map (fun _ => ()) = (F.parse text).map fun _ => ()) :
    x.run E = x.run F := by
  induction x with
  | done a => rfl
  | refuse r => rfl
  | consult text next ih =>
    have htext := h text List.mem_cons_self
    have hnext := ih _ fun t ht => h t (List.mem_cons_of_mem text ht)
    simp only [run]
    rw [hnext, htext]

theorem validate_congr {E F : Engine} {raw : String}
    (h : Guarded (normalForm raw) →
      (E.parse (normalForm raw)).map (fun _ => ()) = (F.parse (normalForm raw)).map fun _ => ()) :
    Service.validate E raw = Service.validate F raw := by
  have hrun : (examine raw).run E = (examine raw).run F := by
    refine Examination.run_congr _ fun text ht => ?_
    obtain ⟨rfl, hguarded⟩ := of_mem_given ht
    exact h hguarded
  rw [Service.validate, Service.validate, check, check, hrun]

/-! ### Validation -/

theorem ofCheck_eq_ok_iff {α : Type} {x : Except Refusal α} {a : α} :
    ofCheck x = .ok a ↔ x = .ok a := by
  cases x <;> simp [ofCheck]

theorem ofCheck_eq_error_iff {α : Type} {x : Except Refusal α} {s : Stop Fault} :
    ofCheck x = .error s ↔ ∃ r, x = .error r ∧ s = .fault r.fault := by
  cases x <;> simp [ofCheck, eq_comm]

theorem FirstFault.kind_eq {E : Engine} {text : String} {f : Fault} (h : FirstFault E text f) :
    f.kind = .invalidSyntax := by
  cases h <;> rfl

section Raw
variable {E : Engine} {raw : String}

theorem validate_of_isAllBlank (h : isAllBlank raw.toList = true) :
    ∃ message, Service.validate E raw = .error (.fault ⟨.invalidArgument, message⟩) := by
  have hempty := (normalForm_eq_empty_iff raw).2 h
  rw [Service.validate, check_eq, hempty]
  cases raw.isEmpty
  · exact ⟨_, rfl⟩
  · exact ⟨_, rfl⟩

theorem check_of_visible (h : isAllBlank raw.toList = false) :
    normalForm raw ≠ "" ∧ check E raw = checkNormal E (normalForm raw) := by
  have hpresent : normalForm raw ≠ "" := by
    rw [Ne, normalForm_eq_empty_iff, h]
    exact Bool.false_ne_true
  have hraw : raw.isEmpty = false := by
    rw [← Bool.not_eq_true, String.isEmpty_iff]
    rintro rfl
    cases h
  rw [check_eq, hraw]
  exact ⟨hpresent, rfl⟩

theorem validate_eq_ok_iff (h : isAllBlank raw.toList = false) :
    Service.validate E raw = .ok () ↔
      Paired (normalForm raw).toList ∧ GroupedWithin maxDepth (normalForm raw).toList ∧
        ∃ p, E.parse (normalForm raw) = .ok p := by
  obtain ⟨hpresent, hcheck⟩ := check_of_visible (E := E) h
  rw [Service.validate, ofCheck_eq_ok_iff, hcheck]
  constructor
  · intro hok
    cases hg : guards (normalForm raw) with
    | error r =>
      rw [checkNormal_of_guards_eq_error hg] at hok
      cases hok
    | ok u =>
      have hguarded := (guards_eq_ok_iff _).1 hg
      rw [checkNormal_of_guarded hguarded, checkSyntax_eq_ok_iff] at hok
      exact ⟨hguarded.paired, hguarded.grouped, hok⟩
  · rintro ⟨hpaired, hgrouped, hparse⟩
    rw [checkNormal_of_guarded ⟨hpresent, hpaired, hgrouped⟩, checkSyntax_eq_ok_iff]
    exact hparse

theorem validate_eq_error_iff (h : isAllBlank raw.toList = false) (s : Stop Fault) :
    Service.validate E raw = .error s ↔ ∃ f, s = .fault f ∧ FirstFault E (normalForm raw) f := by
  obtain ⟨hpresent, hcheck⟩ := check_of_visible (E := E) h
  rw [Service.validate, hcheck]
  constructor
  · intro hs
    obtain ⟨r, hr, rfl⟩ := ofCheck_eq_error_iff.1 hs
    exact ⟨r.fault, rfl, firstFault_of_refused hpresent hr⟩
  · rintro ⟨f, rfl, hf⟩
    exact refused_of_firstFault hpresent hf

end Raw

/-- A text is refused for being no argument exactly if it is blank. Any other is accepted exactly
    if its normal form has no lone operator, has its parentheses in groups no higher than
    `maxDepth` and can be read, and it is refused for its syntax otherwise, with the words for the
    first of these that fails. What an engine says of texts that do not get past the guards makes
    no difference, and it is never given one. -/
theorem validation_answers (E : Engine) (raw : String) :
    ((∃ message, Service.validate E raw = .error (.fault ⟨.invalidArgument, message⟩)) ↔
      ∀ c ∈ raw.toList, isBlank c = true) ∧
    ((∃ c ∈ raw.toList, isBlank c = false) →
      (Service.validate E raw = .ok () ↔
        Paired (normalForm raw).toList ∧ GroupedWithin maxDepth (normalForm raw).toList ∧
          ∃ p, E.parse (normalForm raw) = .ok p) ∧
      ∀ s, Service.validate E raw = .error s ↔
        ∃ f, s = .fault f ∧ FirstFault E (normalForm raw) f) ∧
    (∀ s, Service.validate E raw = .error s →
      ∃ f, s = .fault f ∧ (f.kind = .invalidArgument ∨ f.kind = .invalidSyntax)) ∧
    (∀ F : Engine, (Guarded (normalForm raw) →
        (E.parse (normalForm raw)).map (fun _ => ()) =
          (F.parse (normalForm raw)).map fun _ => ()) →
      Service.validate E raw = Service.validate F raw) ∧
    Service.validate E raw = ofCheck ((examine raw).run E).1 ∧
      ∀ text ∈ ((examine raw).run E).2, text = normalForm raw ∧ Guarded text := by
  have hblank : isAllBlank raw.toList = true ↔ ∀ c ∈ raw.toList, isBlank c = true :=
    List.all_eq_true
  refine ⟨?_, ?_, ?_, fun F h => validate_congr h, rfl, fun _ => of_mem_given⟩
  · rw [← hblank]
    refine ⟨?_, validate_of_isAllBlank⟩
    rintro ⟨message, hm⟩
    by_contra hvisible
    rw [Bool.not_eq_true] at hvisible
    obtain ⟨f, hf, hfirst⟩ := (validate_eq_error_iff hvisible _).1 hm
    cases hf
    cases hfirst.kind_eq
  · intro hvisible
    have h : isAllBlank raw.toList = false := by simpa [isAllBlank] using hvisible
    exact ⟨validate_eq_ok_iff h, validate_eq_error_iff h⟩
  · intro s hs
    obtain ⟨r, -, rfl⟩ := ofCheck_eq_error_iff.1 hs
    exact ⟨r.fault, rfl, kind_of_refusal r⟩

/-- Several things are wrong with this text, and the one that is looked for first is told. -/
theorem validation_answers_severalFaults :
    (∃ c ∈ "\u3000((x = 1 OR ".toList, isBlank c = false) ∧
      Service.validate Language.engine "\u3000((x = 1 OR " =
        .error (.fault ⟨.invalidSyntax, "Invalid operator or syntax found in expression."⟩) := by
  have hvisible : ∃ c ∈ "\u3000((x = 1 OR ".toList, isBlank c = false :=
    ⟨'x', by decide +kernel, by decide +kernel⟩
  have hlone : ¬ Paired (normalForm "\u3000((x = 1 OR ").toList := by
    rw [← hasLoneOperator_eq_false_iff]
    decide +kernel
  have hanswers := (validation_answers Language.engine "\u3000((x = 1 OR ").2.1 hvisible
  exact ⟨hvisible, (hanswers.2 _).2 ⟨_, rfl, .loneOperator hlone⟩⟩

end ConditionRegistry
