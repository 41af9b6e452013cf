import ConditionRegistry.Proofs.Keyed.References

set_option autoImplicit false

/-!
# Listings of a table

A listing is read from the members, and the member is the last write of an insertion. A save whose
member is refused fails, but the entry of its text stays. From then on every save of this text is
answered the id of a record that no listing has.
-/

namespace ConditionRegistry
open Registry

/-! ### What a listing holds -/

theorem Registry.Keyed.run_list (refuses : Command → Bool) (t : Table) :
    list.run (Table.handle refuses) t =
      if refuses (.members allKey) then (refuse .storage "refused", t)
      else (collect (t.members allKey)).run (Table.handle refuses) t := by
  cases hmembers : refuses (.members allKey) with
  | true => exact Table.run_call_of_refuses refuses hmembers collect t
  | false =>
    have hreply : Table.handle refuses (.members allKey) t = (.ok (t.members allKey), t) := by
      simp [Table.handle, hmembers]
    change Plan.run (Table.handle refuses) (.call (.members allKey) (fun ids => collect ids)) t = _
    rw [Plan.run, hreply]
    rfl

theorem stepTable_list (E : Engine) (refuses : Command → Bool) (t : Table) :
    stepTable E refuses .list t =
      ((Keyed.list.run (Table.handle refuses) t).1.map .records,
        (Keyed.list.run (Table.handle refuses) t).2) := by
  have hcall : (Service.list.lower Keyed.carry).run (Table.handle refuses) t = _ :=
    Plan.run_bind (Table.handle refuses) Keyed.list .done t
  unfold stepTable Operation.plan
  rw [Plan.lower_bind, Plan.run_bind, hcall]
  rcases Keyed.list.run (Table.handle refuses) t with ⟨_ | _, _⟩ <;> rfl

namespace Registry.Table
variable {t : Table} {refuses : Command → Bool}

theorem ids_of_run_collect {ids : List String} (h : ∀ id ∈ ids, t.Resolves id) {es : List Record}
    (hrun : ((Keyed.collect ids).run (handle refuses) t).1 = .ok es) : es.map Record.id = ids := by
  induction ids generalizing es with
  | nil =>
    cases hrun
    rfl
  | cons id r ih =>
    obtain ⟨e, he, rfl⟩ := (h id List.mem_cons_self).holds
    rw [Keyed.collect, Plan.run_bind, he.run_findId] at hrun
    cases hget : refuses (.get (recordKey e.id)) with
    | true =>
      rw [hget, if_pos rfl] at hrun
      cases hrun
    | false =>
      rw [hget, if_neg Bool.false_ne_true] at hrun
      simp only [Plan.run_bind] at hrun
      have hrest : ∀ ds, ((Keyed.collect r).run (handle refuses) t).1 = .ok ds →
          ds.map Record.id = r := fun ds => ih fun id hid => h id (List.mem_cons_of_mem _ hid)
      generalize (Keyed.collect r).run (handle refuses) t = q at hrun hrest
      obtain ⟨s | ds, u⟩ := q
      · cases hrun
      · cases hrun
        exact congrArg (e.id :: ·) (hrest ds rfl)

theorem Sound.ids_of_list (h : t.Sound) (E : Engine) {es : List Record}
    (hlist : (stepTable E refuses .list t).1 = .ok (.records es)) :
    es.map Record.id = t.members allKey := by
  rw [stepTable_list, Keyed.run_list] at hlist
  split at hlist
  · cases hlist
  · have hids : ∀ ds, ((Keyed.collect (t.members allKey)).run (handle refuses) t).1 = .ok ds →
        ds.map Record.id = t.members allKey := fun ds => ids_of_run_collect h.members
    generalize (Keyed.collect _).run (handle refuses) t = q at hlist hids
    obtain ⟨s | ds, u⟩ := q
    · cases hlist
    · cases hlist
      exact hids _ rfl

end Registry.Table

/-! ### Saves that reach the last write -/

namespace Attempt

/-- A save that brings the id and makes all writes of an insertion. -/
def Inserts (E : Engine) (t : Table) (a : Attempt) (id : String) : Prop :=
  ∃ name raw, a.operation = .save id name raw ∧
    a.run E t = (.ok (.id id), t.insert ⟨id, name, normalForm raw⟩)

/-- A save that brings the id while the table takes it as no member. -/
def CutsOff (a : Attempt) (id : String) : Prop :=
  (∃ name raw, a.operation = .save id name raw) ∧ a.refuses (.add allKey id) = true

theorem mem_members_iff (E : Engine) (t : Table) (a : Attempt) (id : String) :
    id ∈ (a.run E t).2.members allKey ↔ id ∈ t.members allKey ∨ a.Inserts E t id := by
  have hnew : a.Inserts E t id → id ∈ (a.run E t).2.members allKey := by
    rintro ⟨name, raw, -, hrun⟩
    rw [hrun]
    exact Table.mem_putMember.2 (.inl rfl)
  obtain hsame | ⟨fresh, name, raw, ho, hresult⟩ := a.run_snd_or E t
  · rw [hsame] at hnew ⊢
    exact (or_iff_left_of_imp hnew).symm
  · generalize hq : a.run E t = q at hnew hresult ⊢
    cases hresult with
    | failed _ | found _ | unindexed _ _ _ | unlisted _ _ _ _ =>
      exact (or_iff_left_of_imp hnew).symm
    | inserted _ =>
      refine ⟨fun hmem => ?_, fun h => h.elim (fun hold => Table.mem_putMember.2 (.inr hold)) hnew⟩
      rcases Table.mem_putMember.1 hmem with rfl | hold
      · exact .inr ⟨name, raw, ho, hq⟩
      · exact .inl hold

end Attempt

def Completes (E : Engine) (run : List Attempt) (id : String) : Prop :=
  ∃ before a, before ++ [a] <+: run ∧ a.Inserts E (Table.after E before) id

theorem Completes.mono {E : Engine} {before run : List Attempt} {id : String}
    (h : Completes E before id) (hrun : before <+: run) : Completes E run id := by
  obtain ⟨start, a, hstart, ha⟩ := h
  exact ⟨start, a, hstart.trans hrun, ha⟩

theorem completes_concat {E : Engine} {run : List Attempt} {a : Attempt} {id : String} :
    Completes E (run ++ [a]) id ↔ Completes E run id ∨ a.Inserts E (Table.after E run) id := by
  constructor
  · rintro ⟨before, b, hbefore, hb⟩
    rcases List.prefix_concat_iff.1 hbefore with heq | hold
    · obtain ⟨rfl, hba⟩ := List.append_inj' heq rfl
      cases hba
      exact .inr hb
    · exact .inl ⟨before, b, hold, hb⟩
  · rintro (h | ha)
    · exact h.mono (List.prefix_append run [a])
    · exact ⟨run, a, List.prefix_rfl, ha⟩

theorem mem_members_after_iff (E : Engine) (run : List Attempt) (id : String) :
    id ∈ (Table.after E run).members allKey ↔ Completes E run id := by
  induction run using List.reverseRecOn with
  | nil =>
    refine iff_of_false (fun h => by cases h) ?_
    rintro ⟨before, a, hprefix, -⟩
    exact absurd (List.prefix_nil.1 hprefix) (by simp)
  | append_singleton run a ih =>
    rw [Table.after_concat, Attempt.mem_members_iff, ih, completes_concat]

/-- An entry whose id is no member is left from a save that was cut off. -/
theorem indexed_id_completes_or (E : Engine) {run : List Attempt} (hrun : BringsUuids run)
    {text id : String} (h : (Table.after E run).strings.lookup (textKey text) = some id) :
    Completes E run id ∨ ∃ d ∈ run, d.CutsOff id := by
  induction run using List.reverseRecOn with
  | nil => cases h
  | append_singleton run a ih =>
    obtain ⟨hbefore, ha⟩ := bringsUuids_append.1 hrun
    have hold : (Table.after E run).strings.lookup (textKey text) = some id →
        Completes E (run ++ [a]) id ∨ ∃ d ∈ run ++ [a], d.CutsOff id := fun hsome =>
      (ih hbefore hsome).imp (·.mono (List.prefix_append run [a]))
        fun ⟨d, hd, hcut⟩ => ⟨d, List.mem_append_left _ hd, hcut⟩
    rw [Table.after_concat] at h
    obtain hsame | ⟨fresh, name, raw, ho, hresult⟩ := a.run_snd_or E (Table.after E run)
    · rw [hsame] at h
      exact hold h
    have hapart : IsApart fresh := isApart_of_isUuid (ha.save ho)
    generalize hq : a.run E (Table.after E run) = q at h hresult
    -- Only the last two ends write an entry, and then the id is the one that this save brings.
    cases hresult with
    | failed _ | found _ => exact hold h
    | unindexed _ _ _ =>
      rw [Table.lookup_textKey_putRecord hapart] at h
      exact hold h
    | unlisted _ _ _ hmember =>
      rw [Table.lookup_textKey_putText, Table.lookup_textKey_putRecord hapart] at h
      split at h
      · cases h
        exact .inr ⟨a, List.mem_concat_self, ⟨name, raw, ho⟩, hmember⟩
      · exact hold h
    | inserted _ =>
      rw [Table.lookup_insert, if_neg (hapart.textKey_ne text)] at h
      split at h
      · cases h
        exact .inl (completes_concat.2 (.inr ⟨name, raw, ho, hq⟩))
      · exact hold h

/-- Whatever is refused in a run, a listing after a save that is answered an id has this id exactly
    if some save of the run has made all writes of an insertion for it. If none has, then an earlier
    save that brought the id was refused its member. -/
theorem acknowledged_save_listed_iff (E : Engine) {before later : List Attempt}
    {fresh name raw id : String} {refuses refusesList : Command → Bool} {es : List Record}
    (hrun : BringsUuids (before ++ ⟨.save fresh name raw, refuses⟩ :: later))
    (hok : (stepTable E refuses (.save fresh name raw) (Table.after E before)).1 = .ok (.id id))
    (hlist : (stepTable E refusesList .list
      (Table.after E (before ++ ⟨.save fresh name raw, refuses⟩ :: later))).1 = .ok (.records es)) :
    ((∃ e ∈ es, e.id = id) ↔
        Completes E (before ++ ⟨.save fresh name raw, refuses⟩ :: later) id) ∧
      (¬ Completes E (before ++ ⟨.save fresh name raw, refuses⟩ :: later) id →
        ∃ d ∈ before, d.CutsOff id) := by
  have hids := (Table.Sound.after E hrun).ids_of_list E hlist
  refine ⟨?_, fun hnot => ?_⟩
  · rw [← mem_members_after_iff, ← hids, List.mem_map]
  · obtain ⟨hbefore, -⟩ := bringsUuids_append.1 hrun
    have hresult := saveResult E refuses (Table.after E before) fresh name raw
    generalize hq : stepTable E refuses (.save fresh name raw) (Table.after E before) = q
      at hok hresult
    cases hresult with
    | failed _ | unindexed _ _ _ | unlisted _ _ _ _ => cases hok
    | @found d hfind =>
      -- The lookup went by an entry of the text, and nothing has completed its insertion.
      cases hok
      obtain ⟨c, -, hrefused⟩ | ⟨-, hnone⟩ | ⟨e, hsome, -, hfound⟩ :=
        (Table.Sound.after E hbefore).run_findText refuses (normalForm raw)
      · rw [hrefused] at hfind
        cases hfind
      · rw [hnone] at hfind
        cases hfind
      · rw [hfound] at hfind
        cases hfind
        exact (indexed_id_completes_or E hbefore hsome).resolve_left fun h =>
          hnot (h.mono (List.prefix_append before _))
    | inserted _ =>
      cases hok
      refine absurd ⟨before, ⟨.save fresh name raw, refuses⟩, ?_, name, raw, rfl, hq⟩ hnot
      exact List.prefix_append_right_inj before |>.2 ⟨later, rfl⟩

def cutOnce : List Attempt :=
  [⟨.save "0f8fad5b-d9cb-469f-a165-70867728950e" "First" "x > 1", refusesMembers⟩]

def cutThenSaved : List Attempt :=
  cutOnce ++ [⟨.save "b52b4a14-9c3d-4d8e-8f5a-6d1b2c3e4f50" "Second" "x > 5 AND y", fun _ => false⟩]

/-- Saved again, the second condition is listed under the id of its first save. -/
theorem acknowledged_save_listed_again :
    (stepTable Language.engine (fun _ => false)
        (.save "3d6f4c1a-70be-4b0a-9d0f-5c8e7f2a1b90" "Third" "x > 5 && y")
        (Table.after Language.engine cutThenSaved)).1 =
      .ok (.id "b52b4a14-9c3d-4d8e-8f5a-6d1b2c3e4f50") ∧
    Completes Language.engine
      (cutThenSaved ++
        [⟨.save "3d6f4c1a-70be-4b0a-9d0f-5c8e7f2a1b90" "Third" "x > 5 && y", fun _ => false⟩])
      "b52b4a14-9c3d-4d8e-8f5a-6d1b2c3e4f50" := by
  have hrun : BringsUuids (cutThenSaved ++
      [⟨.save "3d6f4c1a-70be-4b0a-9d0f-5c8e7f2a1b90" "Third" "x > 5 && y", fun _ => false⟩]) := by
    decide
  have hok : (stepTable Language.engine (fun _ => false)
      (.save "3d6f4c1a-70be-4b0a-9d0f-5c8e7f2a1b90" "Third" "x > 5 && y")
      (Table.after Language.engine cutThenSaved)).1 =
    .ok (.id "b52b4a14-9c3d-4d8e-8f5a-6d1b2c3e4f50") := by decide +kernel
  have hlist : (stepTable Language.engine (fun _ => false) .list
      (Table.after Language.engine (cutThenSaved ++
        [⟨.save "3d6f4c1a-70be-4b0a-9d0f-5c8e7f2a1b90" "Third" "x > 5 && y",
          fun _ => false⟩]))).1 =
    .ok (.records [⟨"b52b4a14-9c3d-4d8e-8f5a-6d1b2c3e4f50", "Second", "x > 5 && y"⟩]) := by
    decide +kernel
  have h := acknowledged_save_listed_iff Language.engine hrun hok hlist
  exact ⟨hok, h.1.1 ⟨_, List.mem_singleton_self _, rfl⟩⟩

/-- Saved again, the first condition is answered an id, but nothing is listed. -/
theorem acknowledged_save_unlisted :
    (stepTable Language.engine (fun _ => false)
        (.save "b52b4a14-9c3d-4d8e-8f5a-6d1b2c3e4f50" "Second" "x > 1")
        (Table.after Language.engine cutOnce)).1 =
      .ok (.id "0f8fad5b-d9cb-469f-a165-70867728950e") ∧
    (stepTable Language.engine (fun _ => false) .list
        (Table.after Language.engine (cutOnce ++
          [⟨.save "b52b4a14-9c3d-4d8e-8f5a-6d1b2c3e4f50" "Second" "x > 1", fun _ => false⟩]))).1 =
      .ok (.records []) := by
  decide +kernel

end ConditionRegistry
