import ConditionRegistry.Language.Eval
import Mathlib.Data.List.Forall2

set_option autoImplicit false

/-!
# Two evaluations of the same operands

The outcomes of an expression in two scopes can be compared in more than one way. A comparison
carries over to everything that is made of outcomes if equal outcomes are related and if it is kept
where an evaluation goes on with the value and where the reason for a failure is exchanged. Calls
and loops do nothing else with outcomes.
-/

namespace ConditionRegistry.Language

/-- A way to compare outcomes, whatever they are outcomes of. -/
abbrev OutcomeRelation :=
  (α : Type) → Except (Stop RunFault) α → Except (Stop RunFault) α → Prop

structure CarriesOver (R : OutcomeRelation) : Prop where
  refl {α : Type} (x : Except (Stop RunFault) α) : R α x x
  bind {α β : Type} {x y : Except (Stop RunFault) α} {f g : α → Except (Stop RunFault) β}
    (h : R α x y) (hnext : ∀ a, R β (f a) (g a)) : R β (x >>= f) (y >>= g)
  mapError {α : Type} {x y : Except (Stop RunFault) α} (other : Stop RunFault → Stop RunFault)
    (h : R α x y) : R α (x.mapError other) (y.mapError other)

namespace CarriesOver
variable {R : OutcomeRelation} (hR : CarriesOver R)
include hR

theorem map {α β : Type} {x y : Except (Stop RunFault) α} (h : R α x y) (f : α → β) :
    R β (x.map f) (y.map f) := by
  have hbind (z : Except (Stop RunFault) α) : z.map f = z >>= fun a => .ok (f a) := by
    cases z <;> rfl
  rw [hbind, hbind]
  exact hR.bind h fun a => hR.refl _

/-! ### Calls -/

section Arguments
variable {args args' : List Result} (h : List.Forall₂ (R Value) args args')
include h

theorem mapM_id : R (List Value) (args.mapM id) (args'.mapM id) := by
  induction h with
  | nil => exact hR.refl _
  | cons ha _ ih =>
    rw [List.mapM_cons, List.mapM_cons]
    exact hR.bind ha fun v => hR.bind ih fun vs => hR.refl _

omit hR in
theorem getElem? (i : Nat) : Option.Rel (R Value) args[i]? args'[i]? := by
  induction h generalizing i with
  | nil => exact .none
  | cons ha _ ih =>
    cases i with
    | zero => exact .some ha
    | succ i => exact ih i

theorem arg (v : Option Value) (i : Nat) :
    R Value (Call.arg ⟨v, args⟩ i) (Call.arg ⟨v, args'⟩ i) := by
  have hat := getElem? h i
  unfold Call.arg
  rw [h.length_eq]
  cases hx : args[i]? with
  | none =>
    rw [hx] at hat
    cases hy : args'[i]? with
    | none => exact hR.refl _
    | some y =>
      rw [hy] at hat
      cases hat
  | some x =>
    rw [hx] at hat
    cases hy : args'[i]? with
    | none =>
      rw [hy] at hat
      cases hat
    | some y =>
      rw [hy] at hat
      cases hat with
      | some hxy => exact hxy

/-- Why the subject has no value is not told, so it does not matter. -/
theorem subject {α : Type} (v : Option Value) (read : Value → Except (Stop RunFault) α) :
    R α (Call.subject ⟨v, args⟩ read) (Call.subject ⟨v, args'⟩ read) := by
  cases v with
  | some v => exact hR.refl _
  | none =>
    let untold : Stop RunFault → Stop RunFault
      | .fault _ => .fault .missingTarget
      | .broken => .broken
    have hsubject (xs : List Result) : Call.subject ⟨none, xs⟩ read =
        (Call.arg ⟨none, xs⟩ 0).mapError untold >>= read := by
      unfold Call.subject
      cases Call.arg ⟨none, xs⟩ 0 with
      | ok v => rfl
      | error s => cases s <;> rfl
    rw [hsubject, hsubject]
    exact hR.bind (hR.mapError untold (hR.arg h none 0)) fun v => hR.refl _

theorem other (v : Option Value) : R Value (Call.other ⟨v, args⟩) (Call.other ⟨v, args'⟩) :=
  hR.arg h v _

theorem part (v : Option Value) (f : Calendar.Instant → Int) :
    R Value (Call.part ⟨v, args⟩ f) (Call.part ⟨v, args'⟩ f) :=
  hR.bind (hR.subject h v _) fun _ => hR.refl _

theorem test (v : Option Value) (f : List Char → List Char → Result) :
    R Value (Call.test ⟨v, args⟩ f) (Call.test ⟨v, args'⟩ f) :=
  hR.bind (hR.subject h v _) fun _ =>
    hR.bind (hR.bind (hR.other h v) fun _ => hR.refl _) fun _ => hR.refl _

theorem apply (f : Builtin) (v : Option Value) :
    R Value (f.apply ⟨v, args⟩) (f.apply ⟨v, args'⟩) := by
  have hsubject {α : Type} (read : Value → Except (Stop RunFault) α) (next : α → Result) :
      R Value (Call.subject ⟨v, args⟩ read >>= next) (Call.subject ⟨v, args'⟩ read >>= next) :=
    hR.bind (hR.subject h v read) fun _ => hR.refl _
  have hfirst (next : List Char → Result) :
      R Value (Call.arg ⟨v, args⟩ 0 >>= stringOf >>= next)
        (Call.arg ⟨v, args'⟩ 0 >>= stringOf >>= next) :=
    hR.bind (hR.bind (hR.arg h v 0) fun _ => hR.refl _) fun _ => hR.refl _
  cases f with
  | contains =>
    exact hR.bind (hR.subject h v _) fun _ => hR.bind (hR.other h v) fun _ => hR.refl _
  | max => exact hR.bind (hR.mapM_id h) fun _ => hR.refl _
  | min => exact hR.bind (hR.mapM_id h) fun _ => hR.refl _
  | startsWith => exact hR.test h v _
  | endsWith => exact hR.test h v _
  | «matches» => exact hR.test h v _
  | bytes => exact hfirst _
  | duration => exact hfirst _
  | timestamp => exact hfirst _
  | size => exact hsubject _ _
  | string => exact hsubject _ _
  | double => exact hsubject _ _
  | int => exact hsubject _ _
  | uint => exact hsubject _ _
  | getDayOfYear => exact hsubject _ _
  | _ => exact hR.part h v _

theorem callFunction (f : String) {first first' : Except (Stop RunFault) Unit}
    (hfirst : R Unit first first') {t t' : Option Result} (ht : Option.Rel (R Value) t t') :
    R Value (callFunction f first t args) (callFunction f first' t' args') := by
  refine hR.bind hfirst fun _ => ?_
  cases Builtin.named? f with
  | none => exact hR.refl _
  | some b =>
    cases ht with
    | none => exact hR.apply h b none
    | some ht => exact hR.bind ht fun v => hR.apply h b (some v)

end Arguments

/-! ### Loops -/

omit hR in
theorem branch {α : Type} {x y x' y' : Except (Stop RunFault) α} (b : Bool) (h : R α x x')
    (h' : R α y y') : R α (if b then x else y) (if b then x' else y') := by
  cases b with
  | true => exact h
  | false => exact h'

section Bodies
variable {body body' : Turn → Result} (h : ∀ t, R Value (body t) (body' t))
include h

theorem loopAll (ts : List Turn) : R Value (loopAll body ts) (loopAll body' ts) := by
  induction ts with
  | nil => exact hR.refl _
  | cons t r ih => exact hR.bind (h t) fun w => branch w.isTruthy ih (hR.refl _)

theorem loopSome (last : Value) (ts : List Turn) :
    R Value (loopSome body last ts) (loopSome body' last ts) := by
  induction ts generalizing last with
  | nil => exact hR.refl _
  | cons t r ih => exact hR.bind (h t) fun w => branch w.isTruthy (hR.refl _) (ih w)

theorem loopCount (n : Nat) (ts : List Turn) :
    R Nat (loopCount body n ts) (loopCount body' n ts) := by
  induction ts generalizing n with
  | nil => exact hR.refl _
  | cons t r ih => exact hR.bind (h t) fun w => ih _

theorem loopFilter (ts : List Turn) :
    R (List Value) (loopFilter body ts) (loopFilter body' ts) := by
  induction ts with
  | nil => exact hR.refl _
  | cons t r ih => exact hR.bind (h t) fun w => hR.bind ih fun rest => hR.refl _

theorem loopMap {condition condition' : Turn → Result}
    (hc : ∀ t, R Value (condition t) (condition' t)) (ts : List Turn) :
    R (List Value) (loopMap condition body ts) (loopMap condition' body' ts) := by
  induction ts with
  | nil => exact hR.refl _
  | cons t r ih =>
    exact hR.bind (hc t) fun c =>
      branch c.isTruthy (hR.bind (h t) fun w => hR.bind ih fun rest => hR.refl _) ih

theorem run (k : LoopKind) (here : Origin) (ts : List Turn) :
    R Value (k.run here body ts) (k.run here body' ts) := by
  cases k with
  | all => exact hR.loopAll h ts
  | some => exact hR.loopSome h _ ts
  | one => exact hR.bind (hR.loopCount h 0 ts) fun _ => hR.refl _
  | filter => exact hR.bind (hR.loopFilter h ts) fun _ => hR.refl _
  | map => exact hR.bind (hR.loopMap h (fun _ => hR.refl _) ts) fun _ => hR.refl _

end Bodies

end CarriesOver

end ConditionRegistry.Language
