import ConditionRegistry.Proofs.BreakingOff.Calls

set_option autoImplicit false

/-!
# When loops break off

A loop comes to a turn if all the turns before it have let it go on. It breaks off where its body
does at a turn that it comes to.
-/

namespace ConditionRegistry.Language

/-- A loop comes to a turn past those before it. -/
inductive ComesTo (Passes : Turn → Prop) : List Turn → Turn → Prop
  | now (t : Turn) (r : List Turn) : ComesTo Passes (t :: r) t
  | later {t d : Turn} {r : List Turn} (ht : Passes t) (h : ComesTo Passes r d) :
    ComesTo Passes (t :: r) d

def LoopKind.goesOn (k : LoopKind) (w : Value) : Bool :=
  match k with
  | .all => w.isTruthy
  | .some => !w.isTruthy
  | .one | .filter | .map => true

def LoopKind.Passes (k : LoopKind) (body : Turn → Result) (t : Turn) : Prop :=
  ∃ w, body t = .ok w ∧ k.goesOn w = true

def MapPasses (condition body : Turn → Result) (t : Turn) : Prop :=
  ∃ c, condition t = .ok c ∧ (c.isTruthy = true → ∃ w, body t = .ok w)

def MapEnters (condition : Turn → Result) (t : Turn) : Prop :=
  ∃ c, condition t = .ok c ∧ c.isTruthy = true

section Turns
variable {P Q : Turn → Prop} {t : Turn} {r ts : List Turn}

@[simp] theorem not_comesTo_nil : ¬ ComesTo P [] t := nofun

theorem exists_comesTo_cons_iff :
    (∃ d, ComesTo P (t :: r) d ∧ Q d) ↔ Q t ∨ P t ∧ ∃ d, ComesTo P r d ∧ Q d := by
  constructor
  · rintro ⟨d, hd, hq⟩
    cases hd with
    | now => exact .inl hq
    | later ht h => exact .inr ⟨ht, d, h, hq⟩
  · rintro (hq | ⟨ht, d, h, hq⟩)
    · exact ⟨t, .now t r, hq⟩
    · exact ⟨d, .later ht h, hq⟩

end Turns

section Loops
variable {body : Turn → Result}

theorem loopAll_eq_breaksOff_iff (ts : List Turn) :
    loopAll body ts = breaksOff ↔
      ∃ t, ComesTo (LoopKind.all.Passes body) ts t ∧ body t = breaksOff := by
  induction ts with
  | nil => simp [loopAll]
  | cons t r ih =>
    rw [loopAll, bind_eq_breaksOff_iff, exists_comesTo_cons_iff, ← ih]
    refine or_congr_right ⟨?_, ?_⟩
    · rintro ⟨w, hw, h⟩
      cases hgo : w.isTruthy <;> simp only [hgo, if_true, if_false, Bool.false_eq_true] at h
      · cases h
      · exact ⟨⟨w, hw, hgo⟩, h⟩
    · rintro ⟨⟨w, hw, hgo⟩, h⟩
      exact ⟨w, hw, (if_pos hgo).trans h⟩

theorem loopSome_eq_breaksOff_iff (last : Value) (ts : List Turn) :
    loopSome body last ts = breaksOff ↔
      ∃ t, ComesTo (LoopKind.some.Passes body) ts t ∧ body t = breaksOff := by
  induction ts generalizing last with
  | nil => simp [loopSome]
  | cons t r ih =>
    rw [loopSome, bind_eq_breaksOff_iff, exists_comesTo_cons_iff]
    refine or_congr_right ⟨?_, ?_⟩
    · rintro ⟨w, hw, h⟩
      cases hgo : w.isTruthy <;> simp only [hgo, if_true, if_false, Bool.false_eq_true] at h
      · exact ⟨⟨w, hw, by simp [LoopKind.goesOn, hgo]⟩, (ih w).1 h⟩
      · cases h
    · rintro ⟨⟨w, hw, hgo⟩, h⟩
      have hfalse : w.isTruthy = false := by simpa [LoopKind.goesOn] using hgo
      exact ⟨w, hw, by simpa [hfalse] using (ih w).2 h⟩

theorem comesTo_or_iff {k : LoopKind} (hk : ∀ w, k.goesOn w = true) {t : Turn} {r : List Turn}
    {rest : Value → Prop}
    (hrest : ∀ w, rest w ↔ ∃ d, ComesTo (k.Passes body) r d ∧ body d = breaksOff) :
    (body t = breaksOff ∨ ∃ w, body t = .ok w ∧ rest w) ↔
      ∃ d, ComesTo (k.Passes body) (t :: r) d ∧ body d = breaksOff := by
  rw [exists_comesTo_cons_iff]
  refine or_congr_right ⟨?_, ?_⟩
  · rintro ⟨w, hw, h⟩
    exact ⟨⟨w, hw, hk w⟩, (hrest w).1 h⟩
  · rintro ⟨⟨w, hw, -⟩, h⟩
    exact ⟨w, hw, (hrest w).2 h⟩

theorem loopCount_eq_breaksOff_iff (n : Nat) (ts : List Turn) :
    loopCount body n ts = breaksOff ↔
      ∃ t, ComesTo (LoopKind.one.Passes body) ts t ∧ body t = breaksOff := by
  induction ts generalizing n with
  | nil => simp [loopCount]
  | cons t r ih =>
    rw [loopCount, bind_eq_breaksOff_iff]
    exact comesTo_or_iff (fun _ => rfl) fun w => ih _

theorem loopFilter_eq_breaksOff_iff (ts : List Turn) :
    loopFilter body ts = breaksOff ↔
      ∃ t, ComesTo (LoopKind.filter.Passes body) ts t ∧ body t = breaksOff := by
  induction ts with
  | nil => simp [loopFilter]
  | cons t r ih =>
    rw [loopFilter, bind_eq_breaksOff_iff]
    refine comesTo_or_iff (fun _ => rfl) fun w => ?_
    rw [bind_eq_breaksOff_iff_left fun _ => ok_ne_breaksOff _]
    exact ih

theorem loopMap_eq_breaksOff_iff (condition : Turn → Result) (ts : List Turn) :
    loopMap condition body ts = breaksOff ↔
      ∃ t, ComesTo (MapPasses condition body) ts t ∧
        (condition t = breaksOff ∨ MapEnters condition t ∧ body t = breaksOff) := by
  induction ts with
  | nil => simp [loopMap]
  | cons t r ih =>
    rw [loopMap, bind_eq_breaksOff_iff, exists_comesTo_cons_iff, or_assoc, ← ih]
    refine or_congr_right ⟨?_, ?_⟩
    · rintro ⟨c, hc, h⟩
      cases htruthy : c.isTruthy with
      | false =>
        simp only [htruthy, Bool.false_eq_true, if_false] at h
        exact .inr ⟨⟨c, hc, by simp [htruthy]⟩, h⟩
      | true =>
        simp only [htruthy, if_true] at h
        obtain hbody | ⟨w, hw, h⟩ := bind_eq_breaksOff_iff.1 h
        · exact .inl ⟨⟨c, hc, htruthy⟩, hbody⟩
        · rw [bind_eq_breaksOff_iff_left fun _ => ok_ne_breaksOff _] at h
          exact .inr ⟨⟨c, hc, fun _ => ⟨w, hw⟩⟩, h⟩
    · rintro (⟨⟨c, hc, htruthy⟩, hbody⟩ | ⟨⟨c, hc, hpass⟩, h⟩)
      · refine ⟨c, hc, ?_⟩
        rw [if_pos htruthy, hbody]
        rfl
      · refine ⟨c, hc, ?_⟩
        cases htruthy : c.isTruthy with
        | false => simpa using h
        | true =>
          obtain ⟨w, hw⟩ := hpass htruthy
          rw [if_pos rfl, hw, bind_eq_breaksOff_iff]
          refine .inr ⟨w, rfl, ?_⟩
          rw [bind_eq_breaksOff_iff_left fun _ => ok_ne_breaksOff _]
          exact h

theorem mapPasses_always : MapPasses always body = LoopKind.map.Passes body := by
  funext t
  simp [MapPasses, always, LoopKind.Passes, LoopKind.goesOn, Value.isTruthy]

/-- A loop breaks off where its body does at a turn that it comes to. -/
theorem LoopKind.run_eq_breaksOff_iff (k : LoopKind) (here : Origin) (ts : List Turn) :
    k.run here body ts = breaksOff ↔ ∃ t, ComesTo (k.Passes body) ts t ∧ body t = breaksOff := by
  have hok : ∀ v : Value, (.ok v : Result) ≠ breaksOff := fun v => ok_ne_breaksOff v
  cases k with
  | all => exact loopAll_eq_breaksOff_iff ts
  | «some» => exact loopSome_eq_breaksOff_iff _ ts
  | one =>
    rw [LoopKind.run, bind_eq_breaksOff_iff_left fun _ => hok _]
    exact loopCount_eq_breaksOff_iff 0 ts
  | filter =>
    rw [LoopKind.run, bind_eq_breaksOff_iff_left fun _ => hok _]
    exact loopFilter_eq_breaksOff_iff ts
  | map =>
    rw [LoopKind.run, bind_eq_breaksOff_iff_left fun _ => hok _, loopMap_eq_breaksOff_iff,
      mapPasses_always]
    simp [always, MapEnters, Value.isTruthy]

def Value.HasElements (v : Value) : Prop := (∃ p vs, v = .list p vs) ∨ ∃ p es, v = .map p es

theorem turnsOf_eq_breaksOff_iff (v : Value) : turnsOf v = breaksOff ↔ ¬ v.HasElements := by
  rw [turnsOf, bind_eq_breaksOff_iff_left fun _ => ok_ne_breaksOff _]
  cases v <;> simp [rangeOf, Value.HasElements]

end Loops

end ConditionRegistry.Language
