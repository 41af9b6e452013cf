import ConditionRegistry.Proofs.Keyed.References

set_option autoImplicit false

/-!
# Ids of no record on a table

The key of an id that begins like a text key is the key of a text. If a condition with this text has
been saved, the table holds its entry there, which is no record, and a lookup of the id fails as a
record that cannot be read. Every other id that no record has is not found.
-/

namespace ConditionRegistry
open Registry

/-! ### The texts that have been saved -/

def Operation.Accepts (E : Engine) (o : Operation) (text : String) : Prop :=
  ∃ fresh name raw, o = .save fresh name raw ∧ isBlankText name = false ∧
    check E raw = .ok () ∧ normalForm raw = text

/-- A text key without what all keys begin with, as an id of a text that a run has saved. -/
def NamesSavedText (E : Engine) (run : List Attempt) (id : String) : Prop :=
  ∃ text, (∃ a ∈ run, a.operation.Accepts E text) ∧ id = "text:" ++ text

namespace Registry.Table
variable {t : Table} {E : Engine} {refuses : Command → Bool}

theorem stepTable_save_snd_of_refused {fresh name raw : String}
    (h : ¬ (isBlankText name = false ∧ check E raw = .ok ())) :
    (stepTable E refuses (.save fresh name raw) t).2 = t := by
  rw [stepTable_save]
  by_cases hname : isBlankText name = true
  · rw [if_pos hname]
  · rw [if_neg hname]
    cases hc : check E raw with
    | error r => rfl
    | ok u => exact absurd ⟨by simpa using hname, hc⟩ h

theorem Sound.stepTable_save_snd (h : t.Sound) (hserve : ∀ c, refuses c = false)
    {fresh name raw : String} (hname : isBlankText name = false) (hc : check E raw = .ok ()) :
    (stepTable E refuses (.save fresh name raw) t).2 =
      match t.strings.lookup (textKey (normalForm raw)) with
      | some _ => t
      | none => t.insert ⟨fresh, name, normalForm raw⟩ := by
  rw [stepTable_save, hname, if_neg Bool.false_ne_true, hc]
  obtain ⟨c, hrefused, -⟩ | ⟨hnone, hfind⟩ | ⟨e, hsome, -, hfind⟩ :=
    h.run_findText refuses (normalForm raw)
  · rw [hserve c] at hrefused
    cases hrefused
  · simp only [hfind, hnone, Keyed.run_insert, hserve, Bool.false_eq_true, if_false]
  · simp only [hfind, hsome]

theorem Sound.indexed_attempt (h : t.Sound) {a : Attempt} (ha : BringsUuids [a])
    (hserve : ∀ c, a.refuses c = false) (text : String) :
    (a.run E t).2.strings.lookup (textKey text) ≠ none ↔
      t.strings.lookup (textKey text) ≠ none ∨ a.operation.Accepts E text := by
  obtain ⟨o, refuses⟩ := a
  cases o with
  | save fresh name raw =>
    have hapart : IsApart fresh := isApart_of_isUuid (ha.save rfl)
    simp only [Attempt.run, Operation.Accepts, Operation.save.injEq]
    by_cases hok : isBlankText name = false ∧ check E raw = .ok ()
    · rw [h.stepTable_save_snd hserve hok.1 hok.2]
      cases hsome : t.strings.lookup (textKey (normalForm raw)) with
      | some holder =>
        refine (or_iff_left_of_imp ?_).symm
        rintro ⟨_, _, _, ⟨rfl, rfl, rfl⟩, -, -, rfl⟩
        rw [hsome]
        exact Option.some_ne_none holder
      | none =>
        simp only [lookup_insert, if_neg (hapart.textKey_ne text), textKey_inj]
        by_cases heq : text = normalForm raw
        · rw [if_pos heq]
          exact iff_of_true (Option.some_ne_none fresh)
            (.inr ⟨fresh, name, raw, ⟨rfl, rfl, rfl⟩, hok.1, hok.2, heq.symm⟩)
        · rw [if_neg heq]
          refine (or_iff_left ?_).symm
          rintro ⟨_, _, _, ⟨rfl, rfl, rfl⟩, -, -, htext⟩
          exact heq htext.symm
    · rw [stepTable_save_snd_of_refused hok]
      refine (or_iff_left ?_).symm
      rintro ⟨_, _, _, ⟨rfl, rfl, rfl⟩, hname, hc, -⟩
      exact hok ⟨hname, hc⟩
  | get _ | list | evaluate _ _ | validate _ =>
    rw [Attempt.run, stepTable_snd_of_writes E refuses t rfl]
    refine (or_iff_left ?_).symm
    rintro ⟨_, _, _, hsave, -⟩
    cases hsave

theorem indexed_after {run : List Attempt} (hrun : BringsUuids run)
    (hserve : ∀ a ∈ run, ∀ c, a.refuses c = false) (text : String) :
    (Table.after E run).strings.lookup (textKey text) ≠ none ↔
      ∃ a ∈ run, a.operation.Accepts E text := by
  induction run using List.reverseRecOn with
  | nil => simp [Table.after, Table.empty]
  | append_singleton run a ih =>
    obtain ⟨hbefore, ha⟩ := bringsUuids_append.1 hrun
    have hold := ih hbefore fun d hd => hserve d (List.mem_append_left _ hd)
    have hnew := (Sound.after E hbefore).indexed_attempt (E := E) ha
      (hserve a (List.mem_append_right _ (List.mem_singleton_self a))) text
    rw [after_concat, hnew, hold]
    simp only [List.mem_append, List.mem_singleton, or_and_right, exists_or, exists_eq_left]

/-! ### What stands under the key of an id -/

section After
variable {run : List Attempt} (hrun : BringsUuids run)
  (hserve : ∀ a ∈ run, ∀ c, a.refuses c = false)
include hrun hserve

/-- Under the key of an id stands nothing, its record, or the entry of a saved text. -/
theorem lookup_recordKey_after (id : String) :
    (Table.after E run).strings.lookup (recordKey id) = none ∧ ¬ NamesSavedText E run id ∨
      (∃ e, (Table.after E run).Holds e ∧ e.id = id) ∧ ¬ NamesSavedText E run id ∨
      (∃ holder, isUuid holder = true ∧
        (Table.after E run).strings.lookup (recordKey id) = some holder) ∧
        NamesSavedText E run id := by
  have hsound := Sound.after E hrun
  by_cases hapart : IsApart id
  · have hnot : ¬ NamesSavedText E run id := fun ⟨text, _, hid⟩ => hapart text hid
    cases hsome : (Table.after E run).strings.lookup (recordKey id) with
    | none => exact .inl ⟨rfl, hnot⟩
    | some v =>
      have hresolves := hsound.records id hapart (by rw [hsome]; exact Option.some_ne_none v)
      exact .inr (.inl ⟨hresolves.holds, hnot⟩)
  · obtain ⟨text, rfl⟩ : ∃ text, id = "text:" ++ text := by simpa [IsApart] using hapart
    have hkey : textKey text = recordKey ("text:" ++ text) := textKey_eq_recordKey_iff.2 rfl
    have hindexed := indexed_after (E := E) hrun hserve text
    rw [hkey] at hindexed
    cases hsome : (Table.after E run).strings.lookup (recordKey ("text:" ++ text)) with
    | none =>
      refine .inl ⟨rfl, fun ⟨other, hsaved, heq⟩ => hindexed.2 ?_ hsome⟩
      obtain rfl : text = other := by simpa using heq
      exact hsaved
    | some holder =>
      have hholder := (hsound.index text holder (by rw [hkey, hsome])).isUuid
      have hsaved := hindexed.1 (by rw [hsome]; exact Option.some_ne_none holder)
      exact .inr (.inr ⟨⟨holder, hholder, rfl⟩, text, hsaved, rfl⟩)

end After

section Served
variable {id : String} (hserve : ∀ c, refuses c = false)
include hserve

theorem run_findId_of_none (h : t.strings.lookup (recordKey id) = none) :
    ((Keyed.findId id).run (handle refuses) t).1 = .ok none := by
  rw [Keyed.findId, run_get_of_served refuses (hserve _), h]
  rfl

theorem run_findId_of_isUuid {holder : String} (hholder : isUuid holder = true)
    (h : t.strings.lookup (recordKey id) = some holder) :
    ((Keyed.findId id).run (handle refuses) t).1 = refuse .json "not a record" := by
  rw [Keyed.findId, run_get_of_served refuses (hserve _), h]
  simp only [Keyed.decode, Record.ofJson?_of_isUuid hholder]
  rfl

end Served

end Registry.Table

/-- After any run that brings UUIDs and in which nothing is refused, three things hold of an id,
    each exactly if the id is not `text:` with a saved text behind it: its key holds no more than
    its record; if no record has it, fetching it finds nothing; and neither does evaluating it. -/
theorem unknown_id_not_found_iff (E : Engine) {run : List Attempt} (hrun : BringsUuids run)
    (hserve : ∀ a ∈ run, ∀ c, a.refuses c = false) (id : String) :
    let t := Table.after E run
    ((∀ json, t.strings.lookup (recordKey id) = some json →
        ∃ e : Record, e.id = id ∧ json = String.ofList e.json) ↔ ¬ NamesSavedText E run id) ∧
      ((∀ e, t.Holds e → e.id ≠ id) →
        ((stepTable E (fun _ => false) (.get id) t).1 = refuse .notFound id ↔
            ¬ NamesSavedText E run id) ∧
          (id ≠ "" → ∀ b,
            ((stepTable E (fun _ => false) (.evaluate id b) t).1 = refuse .notFound id ↔
              ¬ NamesSavedText E run id))) := by
  intro t
  rw [stepTable_get]
  simp only [stepTable_evaluate]
  obtain ⟨hnone, hnot⟩ | ⟨⟨e, he, hid⟩, hnot⟩ | ⟨⟨holder, hholder, hsome⟩, hnames⟩ :=
    Table.lookup_recordKey_after (E := E) hrun hserve id
  · have hfind : ((Keyed.findId id).run (Table.handle fun _ => false) t).1 = .ok none :=
      Table.run_findId_of_none (fun _ => rfl) hnone
    refine ⟨iff_of_true (fun json hjson => ?_) hnot, fun _ => ⟨iff_of_true ?_ hnot, ?_⟩⟩
    · rw [hnone] at hjson
      cases hjson
    · rw [hfind]
    · intro hne b
      refine iff_of_true ?_ hnot
      rw [if_neg (by simpa using hne), hfind]
  · refine ⟨iff_of_true (fun json hjson => ⟨e, hid, ?_⟩) hnot, fun h => absurd hid (h e he)⟩
    subst hid
    exact Option.some.inj (hjson.symm.trans he)
  · have hfind : ((Keyed.findId id).run (Table.handle fun _ => false) t).1 =
        refuse .json "not a record" := Table.run_findId_of_isUuid (fun _ => rfl) hholder hsome
    refine ⟨iff_of_false (fun h => ?_) (not_not_intro hnames),
      fun _ => ⟨iff_of_false ?_ (not_not_intro hnames), ?_⟩⟩
    · obtain ⟨e, -, rfl⟩ := h holder hsome
      have hread := Record.ofJson?_of_isUuid hholder
      rw [String.toList_ofList, Record.ofJson?_json] at hread
      cases hread
    · rw [hfind]
      simp [refuse]
    · intro hne b
      refine iff_of_false ?_ (not_not_intro hnames)
      rw [if_neg (by simpa using hne), hfind]
      simp [refuse]

def savedOnce : List Attempt :=
  [⟨.save "0f8fad5b-d9cb-469f-a165-70867728950e" "First" " x > 1 AND y", fun _ => false⟩]

/-- An id that is `text:` with a text behind it that has not been saved. -/
theorem unknown_id_not_found_unsavedText :
    (∀ e, (Table.after Language.engine savedOnce).Holds e → e.id ≠ "text:x > 1 AND y") ∧
      (stepTable Language.engine (fun _ => false) (.get "text:x > 1 AND y")
        (Table.after Language.engine savedOnce)).1 = refuse .notFound "text:x > 1 AND y" := by
  have hrun : BringsUuids savedOnce := by decide
  have hserve : ∀ a ∈ savedOnce, ∀ c, a.refuses c = false := by simp [savedOnce]
  have hnormal : normalForm " x > 1 AND y" = "x > 1 && y" := by decide +kernel
  have hnone : (Table.after Language.engine savedOnce).strings.lookup
      (recordKey "text:x > 1 AND y") = none := by decide +kernel
  have hunknown : ∀ e, (Table.after Language.engine savedOnce).Holds e →
      e.id ≠ "text:x > 1 AND y" := by
    rintro e he heq
    rw [Table.Holds, heq, hnone] at he
    cases he
  have hnot : ¬ NamesSavedText Language.engine savedOnce "text:x > 1 AND y" := by
    rintro ⟨text, ⟨a, ha, fresh, name, raw, ho, -, -, rfl⟩, heq⟩
    obtain rfl := List.mem_singleton.1 ha
    cases ho
    rw [hnormal] at heq
    exact absurd heq (by decide)
  have h := unknown_id_not_found_iff Language.engine hrun hserve "text:x > 1 AND y"
  exact ⟨hunknown, ((h.2 hunknown).1).2 hnot⟩

/-- The entry of the saved text is taken for a record that cannot be read. -/
theorem unknown_id_taken_for_record :
    (∀ e, (Table.after Language.engine savedOnce).Holds e → e.id ≠ "text:x > 1 && y") ∧
      (stepTable Language.engine (fun _ => false) (.get "text:x > 1 && y")
          (Table.after Language.engine savedOnce)).1 = refuse .json "not a record" ∧
      (stepTable Language.engine (fun _ => false)
          (.evaluate "text:x > 1 && y" (.ofList [("x", .integer 2)]))
          (Table.after Language.engine savedOnce)).1 = refuse .json "not a record" := by
  have hrun : BringsUuids savedOnce := by decide
  have hsound := Table.Sound.after Language.engine hrun
  exact ⟨fun e he heq => hsound.isApart_of_holds he "x > 1 && y" (heq.trans (by decide)),
    by decide +kernel, by decide +kernel⟩

end ConditionRegistry
