import ConditionRegistry.Proofs.ByteTexts
import ConditionRegistry.Settings.Config

set_option autoImplicit false

/-!
# Where the text of a variable comes from

A variable of the process counts if it is a text. Otherwise the file counts, and in the file the
first line that sets the variable. What neither sets is as its default.
-/

namespace ConditionRegistry.Settings
open Text

def Environment.text? (env : Environment) (name : String) : Option String :=
  env.findSome? fun e => if e.1 = name then String.fromUTF8? e.2.toByteArray else none

/-- A variable that has a value keeps it. -/
def setNew (k v : String) (vars : Variables) : Variables :=
  if (vars.lookup k).isSome then vars else put k v vars

/-- What lines set, in their order and up to the first that is not well formed. Their values may
    name variables that have been set before. -/
def assignments : List (List Char) → Variables → List (String × String)
  | [], _ => []
  | l :: r, vars =>
    match line? vars l with
    | none => []
    | some none => assignments r vars
    | some (some (k, v)) => (k, v) :: assignments r (setNew k v vars)

def fileText? (env : Environment) (file : List Char) (name : String) : Option String :=
  (assignments (linesOf file) env.texts).lookup name

/-- The text that counts for a variable. -/
def effective (env : Environment) (file : List Char) (name default : String) : String :=
  ((env.text? name).or (fileText? env file name)).getD default

theorem Environment.lookup_texts (env : Environment) (name : String) :
    env.texts.lookup name = env.text? name := by
  induction env with
  | nil => rfl
  | cons e r ih =>
    obtain ⟨k, bs⟩ := e
    rw [texts, List.filterMap_cons, text?, List.findSome?_cons, fromUTF8?_toByteArray]
    rw [texts, text?] at ih
    cases textOf? bs with
    | none =>
      dsimp only [Option.map_none]
      rw [ite_self]
      exact ih
    | some t =>
      dsimp only [Option.map_some]
      rw [lookup_cons_eq_ite, ih]
      by_cases hk : k = name
      · rw [if_pos hk, if_pos hk.symm]
      · rw [if_neg hk, if_neg (Ne.symm hk)]

theorem lookup_setNew (k v name : String) (vars : Variables) :
    (setNew k v vars).lookup name =
      (vars.lookup name).or (if name = k then some v else none) := by
  unfold setNew
  split
  · next hk =>
    by_cases hname : name = k
    · obtain ⟨w, hw⟩ := Option.isSome_iff_exists.1 hk
      rw [hname, hw]
      rfl
    · rw [if_neg hname, Option.or_none]
  · next hk =>
    rw [lookup_put]
    by_cases hname : name = k
    · rw [Option.not_isSome_iff_eq_none] at hk
      rw [if_pos hname, if_pos hname, hname, hk]
      rfl
    · rw [if_neg hname, if_neg hname, Option.or_none]

/-- What a variable was set to before comes first, then what the lines set it to first. -/
theorem lookup_load (lines : List (List Char)) (vars : Variables) (name : String) :
    (load lines vars).lookup name =
      (vars.lookup name).or ((assignments lines vars).lookup name) := by
  induction lines generalizing vars with
  | nil => exact (Option.or_none).symm
  | cons l r ih =>
    unfold load assignments
    cases line? vars l with
    | none => exact (Option.or_none).symm
    | some o =>
      cases o with
      | none => exact ih vars
      | some e =>
        obtain ⟨k, v⟩ := e
        change (load r (setNew k v vars)).lookup name = _
        rw [ih, lookup_setNew, Option.or_assoc, lookup_cons_eq_ite]
        congr 1
        by_cases hname : name = k
        · rw [if_pos hname, if_pos hname]
          rfl
        · rw [if_neg hname, if_neg hname]
          rfl

theorem getD_lookup_load (env : Environment) (file : List Char) (name default : String) :
    ((load (linesOf file) env.texts).lookup name).getD default =
      effective env file name default := by
  rw [lookup_load, env.lookup_texts]
  rfl

end ConditionRegistry.Settings
