import ConditionRegistry.Language.Engine
import ConditionRegistry.Proofs.Revalidation.Parser
import ConditionRegistry.Proofs.Validation

set_option autoImplicit false

/-!
# Validating a normal form

The normal form of a text is judged like the text itself unless it is accepted and a keyword is left
in it outside of strings and comments. Validation replaces that keyword, and then two operators
stand side by side.
-/

open ConditionRegistry.Language

namespace ConditionRegistry
open Guard Text

variable (order : MapOrder)

theorem parse_eq_ok_iff (text : String) :
    (∃ p, (engine order).parse text = .ok p) ↔ (parse? text.toList).isSome = true := by
  change (∃ p, parseText text = .ok p) ↔ _
  unfold parseText
  cases parse? text.toList <;> simp

theorem acceptable_ofList_iff (s : List Char) :
    Acceptable (engine order) (String.ofList s) ↔
      s ≠ [] ∧ hasLoneOperator s = false ∧ isBalanced s = true ∧ isTooDeep s = false ∧
        (parse? s).isSome = true := by
  have hpresent : (String.ofList s).isEmpty = false ↔ s ≠ [] := by
    rw [← Bool.not_eq_true, String.isEmpty_iff, String.ofList_eq_empty_iff]
  have hreadable := parse_eq_ok_iff order (String.ofList s)
  rw [String.toList_ofList] at hreadable
  rw [← hpresent, ← hreadable]
  constructor
  · intro h
    have hguards := And.intro h.paired (And.intro h.balanced h.shallow)
    rw [String.toList_ofList] at hguards
    exact ⟨h.present, hguards.1, hguards.2.1, hguards.2.2, h.readable⟩
  · rintro ⟨hp, ho, hb, hd, hr⟩
    exact ⟨hp, by rwa [String.toList_ofList], by rwa [String.toList_ofList],
      by rwa [String.toList_ofList], hr⟩

/-- Of the checks, only the reading of a text depends on a keyword that is replaced. -/
theorem Keyword.acceptable_replace_iff (k : Keyword) {s : List Char} {before : Option Char}
    (h : k.SettledAfter before s) :
    Acceptable (engine order) (String.ofList (k.replace s)) ↔
      Acceptable (engine order) (String.ofList s) ∧ k.isLoose s = false := by
  have hpresent : k.replace s ≠ [] ↔ s ≠ [] := by
    refine ⟨?_, k.replace_ne_nil⟩
    rintro hs rfl
    exact hs k.replace_nil
  rw [acceptable_ofList_iff order, acceptable_ofList_iff order, hpresent,
    k.hasLoneOperator_replace, isBalanced, k.balancedFrom_replace, isTooDeep,
    k.tooDeepFrom_replace, isSome_parse?_replace k h, Bool.and_eq_true, Bool.not_eq_true']
  tauto

theorem normalChars_normalChars (s : List Char) :
    normalChars (normalChars s) = Keyword.and.replace (Keyword.or.replace (normalChars s)) := by
  rw [Keyword.normalChars_eq (normalChars s)]
  exact trim_eq_self (Keyword.and.isTrimmed_replace
    (Keyword.or.isTrimmed_replace (isTrimmed_normalChars s)))

theorem isEmpty_normalForm_normalForm {raw : String} (h : (normalForm raw).isEmpty = false) :
    (normalForm (normalForm raw)).isEmpty = false := by
  rw [← Bool.not_eq_true, String.isEmpty_iff] at h ⊢
  rw [← String.toList_eq_nil_iff] at h ⊢
  rw [toList_normalForm, toList_normalForm, normalChars_normalChars]
  rw [toList_normalForm] at h
  exact Keyword.and.replace_ne_nil (Keyword.or.replace_ne_nil h)

/-- Normalising a normal form replaces the keywords that are left, and no more. -/
theorem acceptable_normalForm_iff (raw : String) :
    Acceptable (engine order) (normalForm (normalForm raw)) ↔
      Acceptable (engine order) (normalForm raw) ∧
        ∀ k : Keyword, k.isLoose (normalForm raw).toList = false := by
  have hsettled := fun k : Keyword => k.settledAfter_normalChars raw.toList
  have hand := (hsettled .and).replace _ .or
  have htext : normalForm raw = String.ofList (normalChars raw.toList) := rfl
  rw [normalForm, toList_normalForm, normalChars_normalChars, htext]
  rw [Keyword.and.acceptable_replace_iff order hand,
    Keyword.or.acceptable_replace_iff order (hsettled .or)]
  constructor
  · rintro ⟨⟨haccept, hor⟩, hloose⟩
    refine ⟨haccept, fun k => ?_⟩
    cases k with
    | or => exact hor
    | and =>
      rw [← Keyword.or.isLoose_replace .and (hsettled .or) hor]
      exact hloose
  · rintro ⟨haccept, hloose⟩
    refine ⟨⟨haccept, hloose .or⟩, ?_⟩
    rw [Keyword.or.isLoose_replace .and (hsettled .or) (hloose .or)]
    exact hloose .and

/-! ### Verdicts -/

def verdict (E : Engine) (raw : String) : Except FaultKind Unit :=
  (check E raw).mapError fun r => r.fault.kind

theorem verdict_of_ok {E : Engine} {raw : String} (h : check E raw = .ok ()) :
    verdict E raw = .ok () := by
  rw [verdict, h]
  rfl

theorem verdict_of_not_ok {E : Engine} {raw : String} (hraw : raw.isEmpty = false)
    (hp : (normalForm raw).isEmpty = false) (h : check E raw ≠ .ok ()) :
    verdict E raw = .error .invalidSyntax := by
  cases hc : check E raw with
  | ok u => exact absurd hc h
  | error r =>
    have hnormal := hc
    rw [check_eq, hraw] at hnormal
    rw [verdict, hc]
    exact congrArg Except.error (kind_of_checkNormal_eq_error hp hnormal)

/-- A text and its normal form have the same verdict exactly if, where the text is accepted, no
    keyword is loose in the normal form. -/
theorem verdict_of_normalForm_iff (raw text : String) (h : normalize raw = .ok text) :
    verdict (engine order) raw = verdict (engine order) text ↔
      (check (engine order) raw = .ok () → ∀ k : Keyword, k.isLoose text.toList = false) := by
  obtain ⟨hraw, rfl⟩ := (normalize_eq_ok_iff raw text).1 h
  have hagain := acceptable_normalForm_iff order raw
  have hok := check_eq_ok_iff (engine order) raw
  have hok' := check_eq_ok_iff (engine order) (normalForm raw)
  rw [hraw] at hok
  cases hpresent : (normalForm raw).isEmpty with
  | true =>
    have hblank : normalForm raw = "" := String.isEmpty_iff.1 hpresent
    have hcheck : check (engine order) raw = .error .blank := by
      rw [check_eq, hraw, hblank]
      rfl
    have hverdict : verdict (engine order) raw = .error .invalidArgument := by
      rw [verdict, hcheck]
      rfl
    rw [hcheck, hverdict, hblank]
    constructor
    · intro _ hc
      cases hc
    · intro _
      rfl
  | false =>
    rw [hpresent] at hok'
    have hpresent' := isEmpty_normalForm_normalForm hpresent
    by_cases haccept : check (engine order) raw = .ok ()
    · by_cases haccept' : check (engine order) (normalForm raw) = .ok ()
      · have hloose := (hagain.1 (hok'.1 haccept').2).2
        rw [verdict_of_ok haccept, verdict_of_ok haccept']
        exact ⟨fun _ _ => hloose, fun _ => rfl⟩
      · rw [verdict_of_ok haccept, verdict_of_not_ok hpresent hpresent' haccept']
        constructor
        · intro hsame
          cases hsame
        · intro hloose
          exact absurd (hok'.2 ⟨rfl, hagain.2 ⟨(hok.1 haccept).2, hloose haccept⟩⟩) haccept'
    · have haccept' : check (engine order) (normalForm raw) ≠ .ok () := by
        intro hc
        exact haccept (hok.2 ⟨rfl, (hagain.1 (hok'.1 hc).2).1⟩)
      rw [verdict_of_not_ok hraw hpresent haccept, verdict_of_not_ok hpresent hpresent' haccept']
      exact ⟨fun _ hc => absurd hc haccept, fun _ => rfl⟩

/-- In a string, a keyword that is left does not matter. -/
theorem verdict_of_quoted_keyword :
    verdict engine "x == 'p OR OR OR q'" = verdict engine "x == 'p || OR || q'" :=
  (verdict_of_normalForm_iff .inserted "x == 'p OR OR OR q'" "x == 'p || OR || q'"
    (by decide +kernel)).2 fun _ k => by cases k <;> decide +kernel

/-- As a name, it makes the normal form one that is refused. -/
theorem normalForm_refused :
    normalize "a OR OR OR b" = .ok "a || OR || b" ∧
      verdict engine "a OR OR OR b" = .ok () ∧
      verdict engine "a || OR || b" = .error .invalidSyntax := by
  decide +kernel

end ConditionRegistry
