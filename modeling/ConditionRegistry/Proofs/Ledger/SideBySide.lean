import ConditionRegistry.Proofs.Ledger.Calls
import Mathlib.Data.List.Induction
import Mathlib.Data.List.Perm.Subperm
import Mathlib.Data.List.TakeWhile

set_option autoImplicit false

/-!
# Operations side by side in memory

Calls of other operations may come between the lookup of a save and its insertion. So two saves of
one text can both find nothing and both insert, and the second takes the text over from the first.
Still the store is a list of records with different ids that grows at its end only, and each
operation answers as it would have alone on the store of its first turn.
-/

namespace ConditionRegistry
open Registry

/-! ### What turns lead to -/

section Turns
variable (E : Engine) (ops : List Operation)

/-- Operations on an empty store, after turns of theirs. A turn is one call of the operation at a
    place. -/
def sideBySide (turns : List Nat) : Plan.Crowd StoreCall StoreCall.Reply Outcome Memory :=
  turns.foldl (fun g i => g.turn Memory.handle i) ⟨ops.map fun o => o.plan E, Memory.empty⟩

def recordsAfter (turns : List Nat) : Ledger := (sideBySide E ops turns).state.list

/-- The store that the operation at a place comes upon at its first turn. -/
def foundBy (turns : List Nat) (i : Nat) : Memory :=
  (sideBySide E ops (turns.takeWhile fun j => j ≠ i)).state

/-- How far the operation at a place has come. -/
inductive Stage (turns : List Nat) (i : Nat) (o : Operation) : StorePlan Outcome → Prop
  | waiting (hi : i ∉ turns) : Stage turns i o (o.plan E)
  | inserting {e : Record} (hi : i ∈ turns) (he : o.insertion? E (foundBy E ops turns i) = some e) :
    Stage turns i o (inserting e)
  | ended (hi : i ∈ turns) (h : ∀ e, o.insertion? E (foundBy E ops turns i) = some e →
      e ∈ recordsAfter E ops turns) :
    Stage turns i o (Plan.ofAnswer (stepMemory E o (foundBy E ops turns i)).1)

def Brought (turns : List Nat) (e : Record) : Prop :=
  ∃ i o, ops[i]? = some o ∧ i ∈ turns ∧ o.insertion? E (foundBy E ops turns i) = some e ∧
    (sideBySide E ops turns).plans[i]? = some (.done (.id e.id))

/-- What is so after turns: the store holds a list of records, an operation has brought each of
    them, and each operation is where its turns have led it. -/
structure Course (turns : List Nat) : Prop where
  holds : (sideBySide E ops turns).state.Holds (recordsAfter E ops turns)
  brought : ∀ e ∈ recordsAfter E ops turns, Brought E ops turns e
  plans : ∀ i o, ops[i]? = some o →
    ∃ p, (sideBySide E ops turns).plans[i]? = some p ∧ Stage E ops turns i o p

/-- What a turn of an operation makes of the store and of the operation: the records stay as they
    are, or a new one that the operation has brought comes at their end. -/
structure Turned (turns : List Nat) (n : Nat) (o : Operation) (p : StorePlan Outcome) : Prop where
  records : ∃ l, (sideBySide E ops (turns ++ [n])).state.Holds l ∧
    (l = recordsAfter E ops turns ∨
      ∃ e, l = recordsAfter E ops turns ++ [e] ∧ Brought E ops (turns ++ [n]) e)
  stage : Stage E ops (turns ++ [n]) n o p

variable {E ops} {turns : List Nat} {i n : Nat}

theorem sideBySide_concat :
    sideBySide E ops (turns ++ [n]) = (sideBySide E ops turns).turn Memory.handle n := by
  simp [sideBySide]

theorem state_concat {p : StorePlan Outcome} (hp : (sideBySide E ops turns).plans[n]? = some p) :
    (sideBySide E ops (turns ++ [n])).state =
      (p.advance Memory.handle (sideBySide E ops turns).state).2 := by
  rw [sideBySide_concat]
  exact Plan.Crowd.state_turn hp

theorem plan_concat {p : StorePlan Outcome} (hp : (sideBySide E ops turns).plans[n]? = some p) :
    (sideBySide E ops (turns ++ [n])).plans[n]? =
      some (p.advance Memory.handle (sideBySide E ops turns).state).1 := by
  rw [sideBySide_concat]
  exact Plan.Crowd.getElem?_turn_self hp

theorem plan_concat_ne (hin : n ≠ i) :
    (sideBySide E ops (turns ++ [n])).plans[i]? = (sideBySide E ops turns).plans[i]? := by
  rw [sideBySide_concat]
  exact Plan.Crowd.getElem?_turn_ne hin

theorem length_sideBySide : (sideBySide E ops turns).plans.length = ops.length := by
  induction turns using List.reverseRecOn with
  | nil => exact List.length_map _
  | append_singleton turns n ih => rw [sideBySide_concat, Plan.Crowd.length_turn, ih]

theorem takeWhile_ne_of_notMem (h : i ∉ turns) : turns.takeWhile (fun j => j ≠ i) = turns := by
  refine List.takeWhile_eq_self_iff.2 fun j hj => ?_
  have hne : j ≠ i := fun hji => h (hji ▸ hj)
  simpa using hne

theorem foundBy_append_of_mem (h : i ∈ turns) (later : List Nat) :
    foundBy E ops (turns ++ later) i = foundBy E ops turns i := by
  have hsame : (turns ++ later).takeWhile (fun j => j ≠ i) = turns.takeWhile fun j => j ≠ i := by
    induction turns with
    | nil => cases h
    | cons j r ih =>
      by_cases hj : j = i
      · simp [hj]
      · have hr : i ∈ r := by simpa [Ne.symm hj] using h
        simpa [hj] using ih hr
  rw [foundBy, hsame, foundBy]

theorem foundBy_concat_self (h : i ∉ turns) :
    foundBy E ops (turns ++ [i]) i = (sideBySide E ops turns).state := by
  have hall : ∀ j ∈ turns, decide (j ≠ i) = true :=
    List.takeWhile_eq_self_iff.1 (takeWhile_ne_of_notMem h)
  have hsame : (turns ++ [i]).takeWhile (fun j => j ≠ i) = turns := by
    rw [List.takeWhile_append_of_pos hall]
    simp
  rw [foundBy, hsame]

theorem Brought.concat {e : Record} (h : Brought E ops turns e) (n : Nat) :
    Brought E ops (turns ++ [n]) e := by
  obtain ⟨i, o, ho, hi, he, hp⟩ := h
  refine ⟨i, o, ho, List.mem_append_left _ hi, ?_, ?_⟩
  · rwa [foundBy_append_of_mem hi]
  · by_cases hin : n = i
    · subst hin
      rw [plan_concat hp]
      rfl
    · rwa [plan_concat_ne hin]

theorem Stage.concat {o : Operation} {p : StorePlan Outcome} (h : Stage E ops turns i o p)
    (hin : n ≠ i) (hgrows : recordsAfter E ops turns ⊆ recordsAfter E ops (turns ++ [n])) :
    Stage E ops (turns ++ [n]) i o p := by
  cases h with
  | waiting hi => exact .waiting (by simpa [Ne.symm hin] using hi)
  | inserting hi he =>
    rw [← foundBy_append_of_mem hi [n]] at he
    exact .inserting (List.mem_append_left _ hi) he
  | ended hi h =>
    rw [← foundBy_append_of_mem hi [n]] at h ⊢
    exact .ended (List.mem_append_left _ hi) fun e he => hgrows (h e he)

namespace Course

theorem nil : Course E ops [] where
  holds := .empty
  brought e he := by cases he
  plans i o ho := by
    refine ⟨o.plan E, ?_, .waiting List.not_mem_nil⟩
    rw [sideBySide, List.foldl_nil, List.getElem?_map, ho]
    rfl

variable (hc : Course E ops turns)
include hc

/-- A record that is about to be inserted is new: who brought one with its id has ended, and ids
    are brought once. -/
theorem id_notMem_of_inserting (hn : (freshIds ops).Nodup) {o : Operation} {e : Record}
    (ho : ops[n]? = some o) (he : o.record? = some e)
    (hp : (sideBySide E ops turns).plans[n]? = some (inserting e)) :
    e.id ∉ (recordsAfter E ops turns).ids := by
  intro hmem
  obtain ⟨d, hd, hid⟩ := List.mem_map.1 hmem
  obtain ⟨j, other, hj, -, hbrought, hended⟩ := hc.brought d hd
  have hne : j ≠ n := by
    rintro rfl
    cases hp.symm.trans hended
  exact id_ne_of_nodup hn hne hj (insertion?_eq_some_iff.1 hbrought).1 ho he hid

theorem first_turn {o : Operation} (hp : (sideBySide E ops turns).plans[n]? = some (o.plan E))
    (hi : n ∉ turns) :
    Turned E ops turns n o
      ((o.plan E).advance Memory.handle (sideBySide E ops turns).state).1 := by
  have hmem : n ∈ turns ++ [n] := by simp
  have hfound : foundBy E ops (turns ++ [n]) n = (sideBySide E ops turns).state :=
    foundBy_concat_self hi
  refine ⟨⟨_, ?_, .inl rfl⟩, ?_⟩
  · rw [state_concat hp, (advance_plan_cases o).1]
    exact hc.holds
  · cases hins : o.insertion? E (sideBySide E ops turns).state with
    | some e =>
      rw [advance_plan_of_insertion hins]
      rw [← hfound] at hins
      exact .inserting hmem hins
    | none =>
      rw [advance_plan_of_none hins, ← hfound]
      rw [← hfound] at hins
      refine .ended hmem fun e he => ?_
      cases hins.symm.trans he

theorem insertion_turn (hn : (freshIds ops).Nodup) {o : Operation} {e : Record}
    (ho : ops[n]? = some o) (hp : (sideBySide E ops turns).plans[n]? = some (inserting e))
    (hi : n ∈ turns) (he : o.insertion? E (foundBy E ops turns n) = some e) :
    Turned E ops turns n o
      ((inserting e).advance Memory.handle (sideBySide E ops turns).state).1 := by
  have hmem : n ∈ turns ++ [n] := by simp
  have hnew := hc.id_notMem_of_inserting hn ho (insertion?_eq_some_iff.1 he).1 hp
  have hholds : (sideBySide E ops (turns ++ [n])).state.Holds
      (recordsAfter E ops turns ++ [e]) := by
    rw [state_concat hp]
    exact hc.holds.insert e hnew
  have hrecords : recordsAfter E ops (turns ++ [n]) = recordsAfter E ops turns ++ [e] :=
    hholds.list
  rw [← foundBy_append_of_mem hi [n]] at he
  refine ⟨⟨_, hholds, .inr ⟨e, rfl, n, o, ho, hmem, he, plan_concat hp⟩⟩, ?_⟩
  have hanswer : ((inserting e).advance Memory.handle (sideBySide E ops turns).state).1 =
      Plan.ofAnswer (stepMemory E o (foundBy E ops (turns ++ [n]) n)).1 := by
    rw [stepMemory_of_insertion he]
    rfl
  rw [hanswer]
  refine .ended hmem fun d hd => ?_
  cases he.symm.trans hd
  rw [hrecords]
  simp

theorem idle_turn {o : Operation}
    (hp : (sideBySide E ops turns).plans[n]? =
      some (Plan.ofAnswer (stepMemory E o (foundBy E ops turns n)).1)) (hi : n ∈ turns)
    (h : ∀ e, o.insertion? E (foundBy E ops turns n) = some e → e ∈ recordsAfter E ops turns) :
    Turned E ops turns n o (Plan.ofAnswer (stepMemory E o (foundBy E ops turns n)).1) := by
  have hstate : (sideBySide E ops (turns ++ [n])).state = (sideBySide E ops turns).state := by
    rw [state_concat hp, Plan.advance_ofAnswer]
  have hrecords : recordsAfter E ops (turns ++ [n]) = recordsAfter E ops turns := by
    rw [recordsAfter, hstate, recordsAfter]
  refine ⟨⟨_, hstate ▸ hc.holds, .inl rfl⟩, ?_⟩
  rw [← foundBy_append_of_mem hi [n]] at h ⊢
  exact .ended (List.mem_append_left _ hi) fun e he => hrecords ▸ h e he

theorem own_turn (hn : (freshIds ops).Nodup) {o : Operation} {p : StorePlan Outcome}
    (ho : ops[n]? = some o) (hp : (sideBySide E ops turns).plans[n]? = some p)
    (hstage : Stage E ops turns n o p) :
    Turned E ops turns n o (p.advance Memory.handle (sideBySide E ops turns).state).1 := by
  cases hstage with
  | waiting hi => exact hc.first_turn hp hi
  | inserting hi he => exact hc.insertion_turn hn ho hp hi he
  | ended hi h =>
    rw [Plan.advance_ofAnswer]
    exact hc.idle_turn hp hi h

theorem concat (hn : (freshIds ops).Nodup) (n : Nat) :
    Course E ops (turns ++ [n]) ∧
      recordsAfter E ops turns <+: recordsAfter E ops (turns ++ [n]) := by
  cases ho : ops[n]? with
  | none =>
    have hnone : (sideBySide E ops turns).plans[n]? = none := by
      rw [List.getElem?_eq_none_iff, length_sideBySide]
      exact List.getElem?_eq_none_iff.1 ho
    have hsame : sideBySide E ops (turns ++ [n]) = sideBySide E ops turns :=
      sideBySide_concat.trans (Plan.Crowd.turn_of_none hnone)
    have hrecords : recordsAfter E ops (turns ++ [n]) = recordsAfter E ops turns := by
      rw [recordsAfter, hsame, recordsAfter]
    refine ⟨⟨?_, fun e he => ?_, fun i o hi => ?_⟩, hrecords ▸ List.prefix_rfl⟩
    · rw [hrecords, hsame]
      exact hc.holds
    · exact (hc.brought e (hrecords ▸ he)).concat n
    · obtain ⟨p, hp, hstage⟩ := hc.plans i o hi
      have hin : n ≠ i := by
        rintro rfl
        cases ho.symm.trans hi
      exact ⟨p, hsame ▸ hp, hstage.concat hin (hrecords ▸ List.Subset.refl _)⟩
  | some o =>
    obtain ⟨p, hp, hstage⟩ := hc.plans n o ho
    obtain ⟨⟨l', hholds, hl'⟩, hnext⟩ := hc.own_turn hn ho hp hstage
    obtain rfl : l' = recordsAfter E ops (turns ++ [n]) := hholds.list.symm
    have hgrows : recordsAfter E ops turns <+: recordsAfter E ops (turns ++ [n]) := by
      obtain hsame | ⟨e, hnew, -⟩ := hl'
      · exact hsame ▸ List.prefix_rfl
      · exact hnew ▸ List.prefix_append _ _
    refine ⟨⟨hholds, fun e he => ?_, fun i other hother => ?_⟩, hgrows⟩
    · obtain hsame | ⟨d, hnew, hd⟩ := hl'
      · exact (hc.brought e (hsame ▸ he)).concat n
      · rw [hnew, List.mem_append, List.mem_singleton] at he
        obtain hold | rfl := he
        · exact (hc.brought e hold).concat n
        · exact hd
    · by_cases hin : n = i
      · subst hin
        cases ho.symm.trans hother
        exact ⟨_, plan_concat hp, hnext⟩
      · obtain ⟨q, hq, hq'⟩ := hc.plans i other hother
        exact ⟨q, (plan_concat_ne hin).trans hq, hq'.concat hin hgrows.subset⟩

end Course

section Runs
variable (E) (hn : (freshIds ops).Nodup)
include hn

theorem course (turns : List Nat) : Course E ops turns := by
  induction turns using List.reverseRecOn with
  | nil => exact .nil
  | append_singleton turns n ih => exact (ih.concat hn n).1

theorem records_append (turns later : List Nat) :
    recordsAfter E ops turns <+: recordsAfter E ops (turns ++ later) := by
  induction later using List.reverseRecOn with
  | nil => exact (List.append_nil turns).symm ▸ List.prefix_rfl
  | append_singleton later n ih =>
    rw [← List.append_assoc]
    exact ih.trans ((course E hn _).concat hn n).2

theorem list_foundBy (turns : List Nat) (i : Nat) :
    (foundBy E ops turns i).Holds (foundBy E ops turns i).list ∧
      (foundBy E ops turns i).list <+: recordsAfter E ops turns := by
  have hgrows := records_append E hn (turns.takeWhile fun j => j ≠ i)
    (turns.dropWhile fun j => j ≠ i)
  rw [List.takeWhile_append_dropWhile] at hgrows
  exact ⟨(course E hn _).holds, hgrows⟩

end Runs

/-- Each operation answers as it would alone on the store of its first turn, and where it would
    insert a record alone it has inserted it. -/
theorem answer_eq (hn : (freshIds ops).Nodup) {a : Answer Outcome}
    (ha : (sideBySide E ops turns).answer? i = some a) :
    ∃ o, ops[i]? = some o ∧ a = (stepMemory E o (foundBy E ops turns i)).1 ∧
      ∀ e, o.insertion? E (foundBy E ops turns i) = some e → e ∈ recordsAfter E ops turns := by
  obtain ⟨q, hq, ha⟩ := Option.bind_eq_some_iff.1 ha
  obtain ⟨hlt, -⟩ := List.getElem?_eq_some_iff.1 hq
  rw [length_sideBySide] at hlt
  have ho := List.getElem?_eq_getElem hlt
  obtain ⟨p, hp, hstage⟩ := (course E hn turns).plans i ops[i] ho
  cases hq.symm.trans hp
  generalize ops[i] = o at ho hstage
  refine ⟨o, ho, ?_⟩
  obtain rfl := Plan.answer?_eq_some_iff.1 ha
  generalize hq : (Plan.ofAnswer a : StorePlan Outcome) = q at hstage
  cases hstage with
  | waiting hi =>
    have hadvance : (o.plan E).advance Memory.handle (foundBy E ops turns i) =
        (Plan.ofAnswer a, foundBy E ops turns i) := by
      rw [← hq]
      exact Plan.advance_ofAnswer
    cases hins : o.insertion? E (foundBy E ops turns i) with
    | some e =>
      rw [advance_plan_of_insertion hins] at hadvance
      cases a <;> cases hadvance
    | none =>
      rw [advance_plan_of_none hins, Prod.mk.injEq, Plan.ofAnswer_inj] at hadvance
      exact ⟨hadvance.1.symm, fun e he => by cases he⟩
  | inserting hi he => cases a <;> cases hq
  | ended hi h => exact ⟨Plan.ofAnswer_inj.1 hq, h⟩

/-- The places of the saves of a text that looked it up before any record had it. -/
def rivals (E : Engine) (ops : List Operation) (turns : List Nat) (text : String) : List Nat :=
  (List.range ops.length).filter fun i =>
    (ops[i]?.any fun o => o.looksUp E text) && decide (i ∈ turns) &&
      decide (text ∉ Ledger.texts (foundBy E ops turns i).list)

/-- No more records have a text than there are saves that looked it up before any had it. -/
theorem count_texts_le (hn : (freshIds ops).Nodup) (turns : List Nat) (text : String) :
    (recordsAfter E ops turns).texts.count text ≤ (rivals E ops turns text).length := by
  let same : Ledger := (recordsAfter E ops turns).filter fun e => e.text = text
  have hcount : (recordsAfter E ops turns).texts.count text = same.ids.length := by
    rw [Ledger.texts, List.count_eq_countP, List.countP_map, List.countP_eq_length_filter,
      Ledger.ids, List.length_map]
    rfl
  have hnodup : same.ids.Nodup :=
    (List.filter_sublist.map Record.id).nodup (course E hn turns).holds.ids
  -- the ids of these records are brought by the rivals, each by another
  let brought : List String := (rivals E ops turns text).filterMap fun i =>
    ops[i]?.bind fun o => o.record?.map Record.id
  have hsubset : same.ids ⊆ brought := by
    intro id hid
    obtain ⟨e, he, rfl⟩ := List.mem_map.1 hid
    obtain ⟨he, htext⟩ := List.mem_filter.1 he
    obtain ⟨i, o, ho, hi, hins, -⟩ := (course E hn turns).brought e he
    obtain ⟨hrecord, hlooks, hfree⟩ := insertion?_eq_some_iff.1 hins
    obtain rfl : e.text = text := by simpa using htext
    rw [(list_foundBy E hn turns i).1.findText, Ledger.latest?_eq_none_iff] at hfree
    obtain ⟨hlt, hget⟩ := List.getElem?_eq_some_iff.1 ho
    refine List.mem_filterMap.2 ⟨i, ?_, by rw [ho, Option.bind_some, hrecord]; rfl⟩
    simp [rivals, hget, hlooks, hi, hfree, hlt]
  rw [hcount]
  exact (List.subperm_of_subset hnodup hsubset).length_le.trans (List.length_filterMap_le _ _)

theorem save_of_held (hn : (freshIds ops).Nodup) {o : Operation} {text : String}
    (ho : ops[i]? = some o) (hlooks : o.looksUp E text = true) (hi : i ∉ turns)
    (htext : text ∈ (recordsAfter E ops turns).texts) :
    (sideBySide E ops (turns ++ [i])).state = (sideBySide E ops turns).state ∧
      ∃ e ∈ recordsAfter E ops turns, e.text = text ∧
        (sideBySide E ops (turns ++ [i])).answer? i = some (.ok (.id e.id)) := by
  obtain ⟨p, hp, hstage⟩ := (course E hn turns).plans i o ho
  obtain ⟨e, he⟩ : ∃ e, (recordsAfter E ops turns).latest? text = some e :=
    Option.ne_none_iff_exists'.1 fun hnone =>
      (Ledger.latest?_eq_none_iff _ text).1 hnone htext
  have hlatest := Ledger.of_latest?_eq_some he
  rw [← (course E hn turns).holds.findText] at he
  obtain ⟨hnone, hanswer⟩ := answer_of_findText hlooks he
  have hturn : p.advance Memory.handle (sideBySide E ops turns).state =
      (.done (.id e.id), (sideBySide E ops turns).state) := by
    cases hstage with
    | waiting _ =>
      rw [advance_plan_of_none hnone, hanswer]
      rfl
    | inserting hmem _ => exact absurd hmem hi
    | ended hmem _ => exact absurd hmem hi
  rw [state_concat hp, Plan.Crowd.answer?, plan_concat hp, hturn]
  exact ⟨rfl, e, hlatest.1, hlatest.2, rfl⟩

end Turns

/-- Any operations, among them any saves, take turns at their calls in any order. Then every id that
    a save has answered is for ever that of one record, which has the text of the save. No two
    records have the same id, and earlier lists of them are beginnings of later ones. Each operation
    answers as it would alone on the store of its first turn; a listing has the records of then. A
    save that looks its text up when a record has it inserts nothing and answers with such a record;
    so no more records have a text than there are saves that looked it up before any had it. -/
theorem rival_saves_agree (E : Engine) {ops : List Operation} (hn : (freshIds ops).Nodup)
    (turns : List Nat) :
    (∀ i id, (sideBySide E ops turns).answer? i = some (.ok (.id id)) →
        ∃ fresh name raw e, ops[i]? = some (.save fresh name raw) ∧ e.text = normalForm raw ∧
          e ∈ recordsAfter E ops turns ∧ e.id = id ∧
          ∀ later, (sideBySide E ops (turns ++ later)).state.findId id = some e) ∧
      (recordsAfter E ops turns).ids.Nodup ∧
      (∀ later, recordsAfter E ops turns <+: recordsAfter E ops (turns ++ later)) ∧
      (∀ i a, ops[i]? = some .list → (sideBySide E ops turns).answer? i = some a →
        a = .ok (.records (recordsAfter E ops (turns.takeWhile fun j => j ≠ i)))) ∧
      (∀ i a, (sideBySide E ops turns).answer? i = some a →
        ∃ o, ops[i]? = some o ∧ a = (stepMemory E o (foundBy E ops turns i)).1) ∧
      ∀ text,
        (text ∈ (recordsAfter E ops turns).texts → ∀ i o, ops[i]? = some o →
          o.looksUp E text = true → i ∉ turns →
            (sideBySide E ops (turns ++ [i])).state = (sideBySide E ops turns).state ∧
            ∃ e ∈ recordsAfter E ops turns, e.text = text ∧
              (sideBySide E ops (turns ++ [i])).answer? i = some (.ok (.id e.id))) ∧
        (recordsAfter E ops turns).texts.count text ≤ (rivals E ops turns text).length := by
  refine ⟨fun i id h => ?_, (course E hn turns).holds.ids, records_append E hn turns,
    fun i a ho h => ?_, fun i a h => ?_, fun text =>
      ⟨fun htext i o ho hlooks hi => save_of_held hn ho hlooks hi htext,
        count_texts_le hn turns text⟩⟩
  · obtain ⟨o, ho, hanswer, hinserted⟩ := answer_eq hn h
    obtain ⟨hfound, hstays⟩ := list_foundBy E hn turns i
    obtain ⟨fresh, name, raw, e, rfl, rfl, htext, hmem⟩ := stepMemory_eq_id hfound hanswer.symm
    have he : e ∈ recordsAfter E ops turns := hmem.elim (fun h => hstays.subset h) (hinserted e)
    refine ⟨fresh, name, raw, e, ho, htext, he, rfl, fun later => ?_⟩
    exact (course E hn _).holds.findId_of_mem ((records_append E hn turns later).subset he)
  · obtain ⟨o, hlist, hanswer, -⟩ := answer_eq hn h
    cases ho.symm.trans hlist
    exact hanswer
  · obtain ⟨o, ho, hanswer, -⟩ := answer_eq hn h
    exact ⟨o, ho, hanswer⟩

/-- Three saves of one text, a new condition and two listings. -/
def rivalSaves : List Operation :=
  [.save "a" "First" "x > 1", .save "b" "Second" " x > 1", .save "c" "Third" "x > 1\n",
    .save "d" "Other" "x > 2", .list, .list]

/-- The first two both look their text up before either inserts it; the third comes later. -/
def crossedTurns : List Nat := [0, 1, 0, 4, 3, 1, 2, 3, 5]

/-- The second took the text over, so the third answers its id; all ids resolve. -/
theorem rival_saves_agree_crossed :
    (sideBySide Language.engine rivalSaves crossedTurns).answer? 0 = some (.ok (.id "a")) ∧
      (∀ later, (sideBySide Language.engine rivalSaves (crossedTurns ++ later)).state.findId "a" =
        some ⟨"a", "First", "x > 1"⟩) ∧
      (sideBySide Language.engine rivalSaves crossedTurns).answer? 2 = some (.ok (.id "b")) ∧
      (sideBySide Language.engine rivalSaves crossedTurns).answer? 4 =
        some (.ok (.records [⟨"a", "First", "x > 1"⟩])) ∧
      recordsAfter Language.engine rivalSaves crossedTurns =
        [⟨"a", "First", "x > 1"⟩, ⟨"b", "Second", "x > 1"⟩, ⟨"d", "Other", "x > 2"⟩] ∧
      rivals Language.engine rivalSaves crossedTurns "x > 1" = [0, 1] := by
  have hn : (freshIds rivalSaves).Nodup := by decide
  have hfirst : (sideBySide Language.engine rivalSaves crossedTurns).answer? 0 =
    some (.ok (.id "a")) := by decide +kernel
  have hrecords : recordsAfter Language.engine rivalSaves crossedTurns =
      [⟨"a", "First", "x > 1"⟩, ⟨"b", "Second", "x > 1"⟩, ⟨"d", "Other", "x > 2"⟩] := by
    decide +kernel
  obtain ⟨hids, -⟩ := rival_saves_agree Language.engine hn crossedTurns
  obtain ⟨fresh, name, raw, e, -, -, he, hid, hresolves⟩ := hids 0 "a" hfirst
  obtain rfl : e = ⟨"a", "First", "x > 1"⟩ := by
    rw [hrecords] at he
    simp only [List.mem_cons, List.not_mem_nil, or_false] at he
    obtain rfl | rfl | rfl := he
    · rfl
    · exact absurd hid (by decide)
    · exact absurd hid (by decide)
  exact ⟨hfirst, hresolves, by decide +kernel, by decide +kernel, hrecords, by decide +kernel⟩

end ConditionRegistry
