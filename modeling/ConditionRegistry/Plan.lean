import ConditionRegistry.Evaluation

set_option autoImplicit false

/-!
# Plans

A plan makes calls one after another and goes by their replies; `R c` is what call `c` is replied.
A call that fails ends the plan with its fault. The calls of a plan are its only steps that touch
anything shared, so plans that run side by side take turns at their calls.
-/

namespace ConditionRegistry

inductive Plan (C : Type) (R : C → Type) (α : Type) where
  | done (a : α)
  | stop (s : Stop Fault)
  | call (c : C) (next : R c → Plan C R α)

namespace Plan

variable {C D : Type} {R : C → Type} {S : D → Type} {α β : Type}

def bind : Plan C R α → (α → Plan C R β) → Plan C R β
  | .done a, f => f a
  | .stop s, _ => .stop s
  | .call c next, f => .call c fun r => (next r).bind f

/-- A plan of a single call. -/
def ask (c : C) : Plan C R (R c) := .call c .done

def ofAnswer : Answer α → Plan C R α
  | .ok a => .done a
  | .error s => .stop s

def fail (kind : FaultKind) (detail : String) : Plan C R α := .stop (.fault ⟨kind, detail⟩)

def lower (carry : (c : C) → Plan D S (R c)) : Plan C R α → Plan D S α
  | .done a => .done a
  | .stop s => .stop s
  | .call c next => (carry c).bind fun r => (next r).lower carry

abbrev Handler (C : Type) (R : C → Type) (σ : Type) := (c : C) → σ → Except Fault (R c) × σ

def run {σ : Type} (handle : Handler C R σ) : Plan C R α → σ → Answer α × σ
  | .done a, s => (.ok a, s)
  | .stop e, s => (.error e, s)
  | .call c next, s =>
    match handle c s with
    | (.ok r, t) => (next r).run handle t
    | (.error f, t) => (.error (.fault f), t)

theorem run_ofAnswer {σ : Type} (handle : Handler C R σ) (a : Answer α) (s : σ) :
    (ofAnswer a).run handle s = (a, s) := by
  cases a <;> rfl

theorem run_bind {σ : Type} (handle : Handler C R σ) (p : Plan C R α) (f : α → Plan C R β) (s : σ) :
    (p.bind f).run handle s =
      match p.run handle s with
      | (.ok a, t) => (f a).run handle t
      | (.error e, t) => (.error e, t) := by
  induction p generalizing s with
  | done a => rfl
  | stop e => rfl
  | call c next ih =>
    simp only [bind, run]
    split
    · exact ih _ _
    · rfl

end Plan

end ConditionRegistry
