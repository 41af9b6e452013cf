import ConditionRegistry.Proofs.NormalForm
import ConditionRegistry.Proofs.Requests
import ConditionRegistry.Proofs.Validation
import Mathlib.Data.String.Basic

set_option autoImplicit false

/-!
# Dry runs

A text can be validated before it is saved. The two requests come to the check of the text by
different ways: a save refuses blank texts before that. Still they agree, where their bodies are
short enough to be read. A save has the longer body, so it can be refused where its dry run is not.
-/

namespace ConditionRegistry
open Text

/-! ### Blank texts -/

theorem check_ne_ok_of_isBlankText (E : Engine) {raw : String} (h : isBlankText raw = true) :
    check E raw ≠ .ok () := by
  intro hc
  have hpresent := ((check_eq_ok_iff E raw).1 hc).2.present
  rw [(normalForm_eq_empty_iff raw).2 h] at hpresent
  cases hpresent

namespace Http
open Json Registry

/-! ### The two requests -/

/-- The body of what a dry run tells: the text is valid, or it is refused with an error. -/
def verdictText : Option String → List Char
  | none => objectText [("valid", boolText true)]
  | some error => objectText [("valid", boolText false), ("error", quoted error)]

def verdict (error : Option String) : Response := jsonResponse 200 (verdictText error)

theorem verdictText_none_ne_some (s : String) : verdictText none ≠ verdictText (some s) := by
  intro h
  have hletter : some 't' = some 'f' := congrArg (fun t => t[9]?) h
  cases hletter

theorem verdict_injective : Function.Injective verdict := by
  intro a b h
  have htext : verdictText a = verdictText b := String.ofList_injective (congrArg Response.body h)
  cases a with
  | none =>
    cases b with
    | none => rfl
    | some s => exact absurd htext (verdictText_none_ne_some s)
  | some r =>
    cases b with
    | none => exact absurd htext.symm (verdictText_none_ne_some r)
    | some s =>
      have hquoted : quoted r = quoted s := by
        simpa [verdictText, objectText, braces, commas] using htext
      rw [quoted_injective hquoted]

def errorOf (E : Engine) (raw : String) : Option String :=
  match check E raw with
  | .ok () => none
  | .error r => some r.fault.text

section Answers
variable {E : Engine} {q : Request} {text : String} (fresh : String) (m : Memory)

theorem serve_of_not_fits {r : Route} (hq : q.Posts r) (hr : r.isReading = false)
    (hlong : ¬ q.Fits) : serve (stepMemory E) fresh q m = (some tooLong, m) := by
  rw [serve, react_of_not_fits hq hr hlong, Reaction.run]

theorem serve_validate (hq : q.Posts .validate) (hfits : q.Fits)
    (htext : q.given? ["expression"] "expression" = some text) :
    serve (stepMemory E) fresh q m = (some (verdict (errorOf E text)), m) := by
  obtain ⟨found, hread, hfound⟩ := read_of_given? htext
  have hreact : react fresh q = .ask (.validate text) (respondWith validationFault) := by
    rw [react_of_posts hq rfl, Route.reaction, validate, withFields_of_read hq hfits hread, hfound]
    rfl
  rw [serve, hreact, Reaction.run, stepMemory_validate, Service.validate, errorOf]
  cases check E text with
  | ok u => rfl
  | error r =>
    have hfault : validationFault r.fault = verdict (some r.fault.text) :=
      if_pos (kind_of_refusal r)
    simp only [ofCheck, Except.map, respondWith, hfault]

variable {name : String} (hq : q.Posts .save) (hfits : q.Fits)
  (hname : q.given? ["name", "expression"] "name" = some name)
  (htext : q.given? ["name", "expression"] "expression" = some text)
  (hvisible : isBlankText name = false)
include hq hfits hname htext hvisible

theorem react_save :
    react fresh q =
      if isBlankText text then badRequest "Expression cannot be blank"
      else .ask (.save fresh name text) (respondWith faultResponse) := by
  obtain ⟨found, hread, hfound⟩ := read_of_given? hname
  obtain ⟨found', hread', hfound'⟩ := read_of_given? htext
  cases hread.symm.trans hread'
  rw [react_of_posts hq rfl, Route.reaction, save, withFields_of_read hq hfits hread, hfound,
    hfound']
  cases hblank : isBlankText text <;> simp [visible?, hvisible, hblank]

theorem serve_save_of_accepted (hc : check E text = .ok ()) :
    ∃ id, (serve (stepMemory E) fresh q m).1 = some (textResponse 200 id) := by
  have hblank : isBlankText text = false := by
    cases hblank : isBlankText text with
    | false => rfl
    | true => exact absurd hc (check_ne_ok_of_isBlankText E hblank)
  rw [serve, react_save fresh hq hfits hname htext hvisible, hblank, if_neg Bool.false_ne_true,
    Reaction.run, stepMemory_save, hvisible, if_neg Bool.false_ne_true, hc]
  cases m.findText (normalForm text) <;> exact ⟨_, rfl⟩

theorem serve_save_of_refused {r : Refusal} (hc : check E text = .error r) :
    (serve (stepMemory E) fresh q m).1 =
      some (errorResponse 400
        (if isBlankText text then "Expression cannot be blank" else r.fault.text)) := by
  rw [serve, react_save fresh hq hfits hname htext hvisible]
  cases isBlankText text with
  | true => rfl
  | false =>
    have hstatus : statusOf r.fault.kind = 400 := by
      rcases kind_of_refusal r with hk | hk <;> rw [hk] <;> rfl
    rw [if_neg Bool.false_ne_true, if_neg Bool.false_ne_true, Reaction.run, stepMemory_save,
      hvisible, if_neg Bool.false_ne_true, hc]
    simp only [respondWith, faultResponse, hstatus]

end Answers

/-- On any store, a dry run or a save with a body that is too long is answered with 413 and leaves
    the store as it is. Every other dry run is answered with 200 and leaves the store as it is. It
    finds the text valid exactly if saving the text under a visible name is answered with 200, where
    the body of the save is not too long. If the text is not valid, the save is a bad request, and
    its error is the one that the dry run tells, unless the text is blank. -/
theorem dry_run_agrees_with_save (E : Engine) (m : Memory) (fresh : String) {dry save : Request}
    {name text : String} (hdry : dry.Posts .validate)
    (hdryText : dry.given? ["expression"] "expression" = some text) (hsave : save.Posts .save)
    (hsaveName : save.given? ["name", "expression"] "name" = some name)
    (hsaveText : save.given? ["name", "expression"] "expression" = some text)
    (hname : isBlankText name = false) :
    (¬ dry.Fits → serve (stepMemory E) fresh dry m = (some tooLong, m)) ∧
      (¬ save.Fits → serve (stepMemory E) fresh save m = (some tooLong, m)) ∧
      (dry.Fits → ∃ error, serve (stepMemory E) fresh dry m = (some (verdict error), m) ∧
        (save.Fits → ∃ response, (serve (stepMemory E) fresh save m).1 = some response ∧
          (error = none ↔ response.status = 200) ∧
          ∀ message, error = some message → response.status = 400 ∧
            (isBlankText text = false → response = errorResponse 400 message))) := by
  refine ⟨serve_of_not_fits fresh m hdry rfl, serve_of_not_fits fresh m hsave rfl,
    fun hfits => ⟨_, serve_validate fresh m hdry hfits hdryText, fun hfits' => ?_⟩⟩
  rw [errorOf]
  cases hc : check E text with
  | ok u =>
    obtain ⟨id, hid⟩ := serve_save_of_accepted fresh m hsave hfits' hsaveName hsaveText hname hc
    exact ⟨_, hid, by simp [textResponse], fun message h => by cases h⟩
  | error r =>
    have hrefused := serve_save_of_refused fresh m hsave hfits' hsaveName hsaveText hname hc
    refine ⟨_, hrefused, by simp [errorResponse, jsonResponse], ?_⟩
    rintro message ⟨⟩
    exact ⟨rfl, fun hvisible => by rw [hvisible, if_neg Bool.false_ne_true]⟩

def dryRunOf (text : String) : Request := postOf "/validate" [("expression", text)]

def saveOf (text : String) : Request :=
  postOf "/expression" [("name", "First"), ("expression", text)]

section Texts
variable (text : String)

theorem posts_dryRunOf : (dryRunOf text).Posts .validate := posts_postOf (by decide) _

theorem posts_saveOf : (saveOf text).Posts .save := posts_postOf (by decide) _

theorem given?_dryRunOf : (dryRunOf text).given? ["expression"] "expression" = some text :=
  given?_postOf (by simp) (by simp) (by simp) _ _

theorem given?_saveOf_name : (saveOf text).given? ["name", "expression"] "name" = some "First" :=
  given?_postOf (by simp) (by simp) (by simp) _ _

theorem given?_saveOf_text :
    (saveOf text).given? ["name", "expression"] "expression" = some text :=
  given?_postOf (by simp) (by simp) (by simp) _ _

end Texts

/-- A text that is accepted, and one with a single equals sign. -/
theorem dry_run_agrees_with_save_verdicts :
    (serve (stepMemory Language.engine) "a" (dryRunOf "x > 1 AND y") Memory.empty).1 =
        some (verdict none) ∧
      (∃ response, (serve (stepMemory Language.engine) "a" (saveOf "x > 1 AND y")
          Memory.empty).1 = some response ∧ response.status = 200) ∧
      (serve (stepMemory Language.engine) "a" (dryRunOf "x = 1") Memory.empty).1 =
        some (verdict (some "Invalid operator or syntax found in expression.")) ∧
      (serve (stepMemory Language.engine) "a" (saveOf "x = 1") Memory.empty).1 =
        some (errorResponse 400 "Invalid operator or syntax found in expression.") := by
  have hagree := fun text : String =>
    (dry_run_agrees_with_save Language.engine Memory.empty "a" (posts_dryRunOf text)
      (given?_dryRunOf text) (posts_saveOf text) (given?_saveOf_name text)
      (given?_saveOf_text text) (by decide)).2.2
  have haccepted : (serve (stepMemory Language.engine) "a" (dryRunOf "x > 1 AND y")
      Memory.empty).1 = some (verdict none) := by
    decide +kernel
  have hrefused : (serve (stepMemory Language.engine) "a" (dryRunOf "x = 1") Memory.empty).1 =
      some (verdict (some "Invalid operator or syntax found in expression.")) := by
    decide +kernel
  obtain ⟨error, hdry, hsave⟩ := hagree "x > 1 AND y" (by decide +kernel)
  obtain ⟨error', hdry', hsave'⟩ := hagree "x = 1" (by decide +kernel)
  obtain ⟨response, hresponse, hstatus, -⟩ := hsave (by decide +kernel)
  obtain ⟨response', hresponse', -, herror⟩ := hsave' (by decide +kernel)
  rw [hdry] at haccepted
  rw [hdry'] at hrefused
  obtain rfl := verdict_injective (Option.some.inj haccepted)
  obtain rfl := verdict_injective (Option.some.inj hrefused)
  exact ⟨by rw [hdry], ⟨response, hresponse, hstatus.1 rfl⟩, by rw [hdry'],
    hresponse'.trans (congrArg some ((herror _ rfl).2 (by decide)))⟩

/-! ### Bodies that are too long -/

theorem length_le_utf8ByteSize (s : List Char) : s.length ≤ (String.ofList s).utf8ByteSize := by
  rw [String.utf8ByteSize_ofList]
  induction s with
  | nil => exact Nat.le_refl 0
  | cons c r ih =>
    have hc := c.utf8Size_pos
    rw [List.length_cons, String.utf8Len_cons]
    omega

theorem length_le_flatMap_escaped (s : List Char) : s.length ≤ (s.flatMap escaped).length := by
  induction s with
  | nil => exact Nat.le_refl 0
  | cons c r ih =>
    have hc : 0 < (escaped c).length := by
      unfold escaped
      split_ifs <;> exact Nat.succ_pos _
    rw [List.length_cons, List.flatMap_cons, List.length_append]
    omega

theorem not_fits_dryRunOf {text : String} (h : bodyLimit ≤ text.length) :
    ¬ (dryRunOf text).Fits := by
  intro hfits
  have hbody := Nat.le_trans (length_le_utf8ByteSize _) hfits
  have htext := length_le_flatMap_escaped text.toList
  rw [String.length_toList] at htext
  simp only [List.map_cons, List.map_nil, objectText, commas, braces, quoted, List.length_cons,
    List.length_append, List.length_nil] at hbody
  omega

def longName : String := String.ofList (List.replicate bodyLimit 'x')

/-- A text that is not blank, with a dry run that is not answered with 200. -/
theorem long_dry_run_refused :
    (dryRunOf longName).Posts .validate ∧
      (dryRunOf longName).given? ["expression"] "expression" = some longName ∧
      isBlankText longName = false ∧
      serve (stepMemory Language.engine) "a" (dryRunOf longName) Memory.empty =
        (some tooLong, Memory.empty) ∧
      tooLong.status ≠ 200 := by
  have hlong : ¬ (dryRunOf longName).Fits := not_fits_dryRunOf (by simp [longName])
  refine ⟨posts_dryRunOf _, given?_dryRunOf _, ?_,
    serve_of_not_fits "a" Memory.empty (posts_dryRunOf _) rfl hlong, by decide⟩
  rw [isBlankText, longName, String.toList_ofList, isAllBlank, List.all_replicate]
  decide

end Http

end ConditionRegistry
