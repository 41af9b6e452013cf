import ConditionRegistry.Plan
import Mathlib.Data.List.Basic

set_option autoImplicit false

/-!
# Plans side by side

Plans that share a state take turns at their calls, one call at a time. What one plan counts on can
be upset by the calls of another only, so it is enough to look at single calls: one that a plan
makes for itself, and one that another plan makes in between.
-/

namespace ConditionRegistry.Plan

variable {C : Type} {R : C → Type} {α β σ κ : Type}

/-! ### What a plan calls -/

/-- Quiet calls aside, a plan makes the given calls in their order. It may end before the last. -/
inductive Follows (quiet : C → Prop) : List C → Plan C R α → Prop
  | done (cs : List C) (a : α) : Follows quiet cs (.done a)
  | stop (cs : List C) (e : Stop Fault) : Follows quiet cs (.stop e)
  | quiet {cs : List C} {c : C} {next : R c → Plan C R α} (hc : quiet c)
      (h : ∀ r, Follows quiet cs (next r)) : Follows quiet cs (.call c next)
  | call {cs : List C} {c : C} {next : R c → Plan C R α} (h : ∀ r, Follows quiet cs (next r)) :
      Follows quiet (c :: cs) (.call c next)

namespace Follows
variable {quiet : C → Prop} {cs : List C} {p : Plan C R α} {f : α → Plan C R β}

theorem of_nil (h : Follows quiet [] p) : Follows quiet cs p := by
  generalize hds : ([] : List C) = ds at h
  induction h with
  | done ds a => exact .done cs a
  | stop ds e => exact .stop cs e
  | quiet hc _ ih => exact .quiet hc fun r => ih r hds
  | call _ _ => cases hds

theorem bind (h : Follows quiet cs p) (hf : ∀ a, Follows quiet [] (f a)) :
    Follows quiet cs (p.bind f) := by
  induction h with
  | done cs a => exact (hf a).of_nil
  | stop cs e => exact .stop cs e
  | quiet hc _ ih => exact .quiet hc ih
  | call _ ih => exact .call ih

theorem quiet_bind (h : Follows quiet [] p) (hf : ∀ a, Follows quiet cs (f a)) :
    Follows quiet cs (p.bind f) := by
  generalize hds : ([] : List C) = ds at h
  induction h with
  | done ds a => exact hf a
  | stop ds e => exact .stop cs e
  | quiet hc _ ih => exact .quiet hc fun r => ih r hds
  | call _ _ => cases hds

theorem run_snd {handle : Handler C R σ} (hquiet : ∀ c s, quiet c → (handle c s).2 = s)
    (h : Follows quiet [] p) (s : σ) : (p.run handle s).2 = s := by
  generalize hds : ([] : List C) = ds at h
  induction h with
  | done ds a => rfl
  | stop ds e => rfl
  | @quiet ds c next hc _ ih =>
    have hs := hquiet c s hc
    simp only [run]
    generalize handle c s = q at hs
    obtain ⟨r, t⟩ := q
    obtain rfl : t = s := hs
    cases r with
    | ok r => exact ih r hds
    | error f => rfl
  | call _ _ => cases hds

end Follows

/-! ### Turns -/

/-- One call of a plan. A plan that has ended stays as it is. -/
def advance (handle : Handler C R σ) : Plan C R α → σ → Plan C R α × σ
  | .done a, s => (.done a, s)
  | .stop e, s => (.stop e, s)
  | .call c next, s =>
    match handle c s with
    | (.ok r, t) => (next r, t)
    | (.error f, t) => (.stop (.fault f), t)

def answer? : Plan C R α → Option (Answer α)
  | .done a => some (.ok a)
  | .stop e => some (.error e)
  | .call _ _ => none

section Answer
variable {handle : Handler C R σ} {p : Plan C R α} {a : Answer α} {s : σ}

theorem answer?_eq_some_iff : p.answer? = some a ↔ p = ofAnswer a := by
  cases p <;> cases a <;> simp [answer?, ofAnswer]

theorem ofAnswer_inj {b : Answer α} : (ofAnswer a : Plan C R α) = ofAnswer b ↔ a = b := by
  cases a <;> cases b <;> simp [ofAnswer]

theorem advance_ofAnswer : (ofAnswer a : Plan C R α).advance handle s = (ofAnswer a, s) := by
  cases a <;> rfl

/-- A plan comes to the same, whether or not its first call is made beforehand. -/
theorem run_advance :
    (p.advance handle s).1.run handle (p.advance handle s).2 = p.run handle s := by
  cases p with
  | done a => rfl
  | stop e => rfl
  | call c next =>
    simp only [advance, run]
    generalize handle c s = q
    obtain ⟨r | f, t⟩ := q <;> rfl

theorem advance_of_answer? (h : (p.advance handle s).1.answer? = some a) :
    p.advance handle s = (ofAnswer (p.run handle s).1, (p.run handle s).2) := by
  have hrun : (p.advance handle s).1.run handle (p.advance handle s).2 = p.run handle s :=
    run_advance
  generalize p.advance handle s = q at h hrun
  obtain ⟨q, t⟩ := q
  obtain rfl := answer?_eq_some_iff.1 h
  cases a <;> rw [← hrun] <;> rfl

end Answer

structure Crowd (C : Type) (R : C → Type) (α σ : Type) where
  plans : List (Plan C R α)
  state : σ

namespace Crowd

def answer? (g : Crowd C R α σ) (i : Nat) : Option (Answer α) := g.plans[i]?.bind Plan.answer?

def turn (handle : Handler C R σ) (i : Nat) (g : Crowd C R α σ) : Crowd C R α σ :=
  match g.plans[i]? with
  | none => g
  | some p => ⟨g.plans.set i (p.advance handle g.state).1, (p.advance handle g.state).2⟩

section Turn
variable {handle : Handler C R σ} {i : Nat} {g : Crowd C R α σ}

theorem turn_of_none (h : g.plans[i]? = none) : g.turn handle i = g := by
  rw [turn, h]

variable {p : Plan C R α} (hp : g.plans[i]? = some p)
include hp

theorem state_turn : (g.turn handle i).state = (p.advance handle g.state).2 := by
  rw [turn, hp]

theorem getElem?_turn_self :
    (g.turn handle i).plans[i]? = some (p.advance handle g.state).1 := by
  obtain ⟨hlt, -⟩ := List.getElem?_eq_some_iff.1 hp
  rw [turn, hp]
  exact List.getElem?_set_self hlt

omit hp in
theorem length_turn : (g.turn handle i).plans.length = g.plans.length := by
  unfold turn
  cases g.plans[i]? with
  | none => rfl
  | some p => exact List.length_set

omit hp in
theorem getElem?_turn_ne {j : Nat} (h : i ≠ j) : (g.turn handle i).plans[j]? = g.plans[j]? := by
  unfold turn
  cases g.plans[i]? with
  | none => rfl
  | some p => exact List.getElem?_set_ne h

end Turn

/-- Turns one after another. Each says whose it is and how its call is handled. -/
def turns (handle : κ → Handler C R σ) (ns : List (Nat × κ)) (g : Crowd C R α σ) :
    Crowd C R α σ :=
  ns.foldl (fun g n => g.turn (handle n.2) n.1) g

theorem turns_append (handle : κ → Handler C R σ) (ns ms : List (Nat × κ)) (g : Crowd C R α σ) :
    g.turns handle (ns ++ ms) = (g.turns handle ns).turns handle ms := List.foldl_append

end Crowd

/-- Why plans can run side by side: an invariant of the state, what each plan counts on, by its
    place, and how the state may change. A call of a plan keeps the invariant, what the plan itself
    counts on and what each other plan counts on. -/
structure Compatible (handle : κ → Handler C R σ) (inv : σ → Prop)
    (counts : Nat → Plan C R α → σ → Prop) (grows : σ → σ → Prop) : Prop where
  refl : ∀ s, grows s s
  trans : ∀ {s t u}, grows s t → grows t u → grows s u
  own : ∀ {i p s}, inv s → counts i p s → ∀ k,
    inv (p.advance (handle k) s).2 ∧
      counts i (p.advance (handle k) s).1 (p.advance (handle k) s).2 ∧
      grows s (p.advance (handle k) s).2
  others : ∀ {i j p q s}, i ≠ j → inv s → counts i p s → counts j q s → ∀ k,
    counts j q (p.advance (handle k) s).2

structure Crowd.Steady (inv : σ → Prop) (counts : Nat → Plan C R α → σ → Prop)
    (g : Crowd C R α σ) : Prop where
  inv : inv g.state
  counts : ∀ i p, g.plans[i]? = some p → counts i p g.state

namespace Compatible
variable {handle : κ → Handler C R σ} {inv : σ → Prop} {counts : Nat → Plan C R α → σ → Prop}
  {grows : σ → σ → Prop} {g : Crowd C R α σ}

theorem turn (h : Compatible handle inv counts grows) (hg : g.Steady inv counts) (k : κ) (i : Nat) :
    (g.turn (handle k) i).Steady inv counts ∧ grows g.state (g.turn (handle k) i).state := by
  cases hp : g.plans[i]? with
  | none =>
    rw [Crowd.turn_of_none hp]
    exact ⟨hg, h.refl g.state⟩
  | some p =>
    obtain ⟨hinv, hown, hgrows⟩ := h.own hg.inv (hg.counts i p hp) k
    rw [← Crowd.state_turn hp] at hinv hown hgrows
    refine ⟨⟨hinv, fun j q hq => ?_⟩, hgrows⟩
    -- What the plan counts on is kept by its own call, what the others count on by `others`.
    by_cases hij : i = j
    · subst hij
      rw [Crowd.getElem?_turn_self hp, Option.some.injEq] at hq
      exact hq ▸ hown
    · rw [Crowd.getElem?_turn_ne hij] at hq
      rw [Crowd.state_turn hp]
      exact h.others hij hg.inv (hg.counts i p hp) (hg.counts j q hq) k

theorem turns (h : Compatible handle inv counts grows) (hg : g.Steady inv counts)
    (ns : List (Nat × κ)) :
    (g.turns handle ns).Steady inv counts ∧ grows g.state (g.turns handle ns).state := by
  induction ns generalizing g with
  | nil => exact ⟨hg, h.refl g.state⟩
  | cons n r ih =>
    obtain ⟨hturn, hgrows⟩ := h.turn hg n.2 n.1
    obtain ⟨hend, hlater⟩ := ih hturn
    exact ⟨hend, h.trans hgrows hlater⟩

end Compatible

end ConditionRegistry.Plan
