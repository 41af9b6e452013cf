import ConditionRegistry.Proofs.Ledger
import ConditionRegistry.Proofs.NormalForm
import ConditionRegistry.Proofs.Validation

set_option autoImplicit false

/-!
# What is stored can be evaluated

Whatever a service in memory has been asked, its records have a name and a text that passes
validation as it stands. So the evaluation of a record never fails for its text. Nothing is assumed
of the ids that saves bring: one that comes again takes a record away, but only for another that was
accepted too.
-/

namespace ConditionRegistry
open Registry Text

structure Record.WellFormed (E : Engine) (e : Record) : Prop where
  named : ∃ c ∈ e.name.toList, isBlank c = false
  present : e.text ≠ ""
  trimmed : IsTrimmed e.text.toList
  accepted : checkNormal E e.text = .ok ()

theorem isBlankText_eq_false_iff (s : String) :
    isBlankText s = false ↔ ∃ c ∈ s.toList, isBlank c = false := by
  simp [isBlankText, isAllBlank]

theorem wellFormed_of_check {E : Engine} {name raw : String} (hname : isBlankText name = false)
    (hc : check E raw = .ok ()) (fresh : String) :
    Record.WellFormed E ⟨fresh, name, normalForm raw⟩ := by
  have hok := ((check_eq_ok_iff E raw).1 hc).2
  refine ⟨(isBlankText_eq_false_iff name).1 hname, ?_, ?_, (checkNormal_eq_ok_iff E _).2 hok⟩
  · intro (hempty : normalForm raw = "")
    have hpresent := hok.present
    rw [hempty] at hpresent
    cases hpresent
  · rw [toList_normalForm]
    exact isTrimmed_normalChars _

/-! ### Which records there can be -/

/-- A step changes nothing, or it is a save that is accepted and inserts the record it makes. -/
theorem stepMemory_cases (E : Engine) (o : Operation) (m : Memory) :
    (stepMemory E o m).2 = m ∨
      ∃ fresh name raw, o = .save fresh name raw ∧ isBlankText name = false ∧
        check E raw = .ok () ∧
        (stepMemory E o m).2 = m.insert ⟨fresh, name, normalForm raw⟩ := by
  cases o with
  | save fresh name raw =>
    rw [stepMemory_save]
    by_cases hname : isBlankText name = true
    · exact .inl (by simp only [hname, if_true])
    · simp only [hname]
      cases hc : check E raw with
      | error r => exact .inl rfl
      | ok u =>
        dsimp only
        cases m.findText (normalForm raw) with
        | some e => exact .inl rfl
        | none => exact .inr ⟨fresh, name, raw, rfl, by simpa using hname, hc, rfl⟩
  | get id =>
    rw [stepMemory_get]
    cases m.findId id <;> exact .inl rfl
  | list => exact .inl rfl
  | evaluate id b =>
    rw [stepMemory_evaluate]
    by_cases hid : id.isEmpty = true
    · exact .inl (by simp only [hid, if_true])
    · simp only [hid]
      cases m.findId id <;> exact .inl rfl
  | validate raw =>
    rw [stepMemory_validate]
    exact .inl rfl

/-- What holds of every record that a save can make holds of all that are ever found. -/
theorem Registry.Memory.forall_findId_runAll (E : Engine) {P : Record → Prop}
    (hP : ∀ fresh name raw, isBlankText name = false → check E raw = .ok () →
      P ⟨fresh, name, normalForm raw⟩)
    (ops : List Operation) (m : Memory) (hm : ∀ id e, m.findId id = some e → P e) :
    ∀ id e, (runAll (stepMemory E) ops m).2.findId id = some e → P e := by
  induction ops generalizing m with
  | nil => exact hm
  | cons o r ih =>
    rw [runAll_cons]
    refine ih _ ?_
    obtain h | ⟨fresh, name, raw, -, hname, hc, h⟩ := stepMemory_cases E o m
    · rwa [h]
    · rw [h]
      intro id e he
      rw [Memory.findId_insert] at he
      split at he
      · cases he
        exact hP fresh name raw hname hc
      · exact hm id e he

theorem Registry.Memory.wellFormed_after (E : Engine) (ops : List Operation) (id : String)
    (e : Record) (he : (Memory.after E ops).findId id = some e) : e.WellFormed E :=
  Memory.forall_findId_runAll E (fun fresh _ _ hname hc => wellFormed_of_check hname hc fresh) ops
    Memory.empty (fun _ _ h => by cases h) id e he

/-! ### How an evaluation can fail -/

theorem kind_of_evaluate_eq_error {E : Engine} {text : String} {b : Bindings} {f : Fault}
    (hread : ∃ p, E.parse text = .ok p) (h : evaluate E text b = .error (.fault f)) :
    f.kind = .invalidArgument ∨ f.kind = .evaluation := by
  obtain ⟨p, hp⟩ := hread
  cases hb : b.isEmpty with
  | true =>
    rw [evaluate, hb] at h
    cases h
    exact .inl rfl
  | false => exact .inr (kind_of_evaluate hp hb h)

theorem kind_of_stepMemory_evaluate {E : Engine} {m : Memory} {id : String} {b : Bindings}
    {f : Fault} (hm : ∀ e, m.findId id = some e → e.WellFormed E)
    (h : (stepMemory E (.evaluate id b) m).1 = .error (.fault f)) :
    f.kind ∈ [.invalidArgument, .notFound, .evaluation] := by
  rw [stepMemory_evaluate] at h
  split at h
  · cases h
    simp
  · cases hf : m.findId id with
    | none =>
      rw [hf] at h
      cases h
      simp
    | some e =>
      rw [hf] at h
      have hread := ((checkNormal_eq_ok_iff E e.text).1 (hm e hf).accepted).readable
      cases ha : evaluate E e.text b with
      | ok t => simp [ha, Except.map] at h
      | error s =>
        simp only [ha, Except.map, Except.error.injEq] at h
        rw [h] at ha
        rcases kind_of_evaluate_eq_error hread ha with hk | hk <;> simp [hk]

/-- In every state that a run reaches, every record has a visible name and a trimmed text that is
    there and passes validation as it stands; and an evaluation that fails has been given a bad
    argument or an unknown id, or has failed while it ran. -/
theorem stored_records_can_be_evaluated (E : Engine) (ops : List Operation) :
    (∀ id e, (Memory.after E ops).findId id = some e → e.WellFormed E) ∧
      ∀ id b f, (stepMemory E (.evaluate id b) (Memory.after E ops)).1 = .error (.fault f) →
        f.kind ∈ [.invalidArgument, .notFound, .evaluation] :=
  ⟨Memory.wellFormed_after E ops, fun id _ _ h =>
    kind_of_stepMemory_evaluate (fun e => Memory.wellFormed_after E ops id e) h⟩

/-- Two saves with one id, of which the second takes the place of the first. -/
def repeatedId : List Operation :=
  [.save "a" "First" " x > 5 AND y < 10", .save "a" "Second" "x + 1\n"]

theorem stored_records_can_be_evaluated_repeatedId :
    (Memory.after Language.engine repeatedId).findId "a" = some ⟨"a", "Second", "x + 1"⟩ ∧
      Record.WellFormed Language.engine ⟨"a", "Second", "x + 1"⟩ ∧
      (stepMemory Language.engine (.evaluate "a" (.ofList [("y", .boolean true)]))
          (Memory.after Language.engine repeatedId)).1 =
        .error (.fault ⟨.evaluation, "Undeclared reference to 'x'"⟩) ∧
      FaultKind.evaluation ∈ [FaultKind.invalidArgument, .notFound, .evaluation] := by
  have h := stored_records_can_be_evaluated Language.engine repeatedId
  have hfound : (Memory.after Language.engine repeatedId).findId "a" =
      some ⟨"a", "Second", "x + 1"⟩ := by decide +kernel
  have hfails : (stepMemory Language.engine (.evaluate "a" (.ofList [("y", .boolean true)]))
        (Memory.after Language.engine repeatedId)).1 =
      .error (.fault ⟨.evaluation, "Undeclared reference to 'x'"⟩) := by decide +kernel
  exact ⟨hfound, h.1 "a" _ hfound, hfails, h.2 "a" _ _ hfails⟩

end ConditionRegistry
