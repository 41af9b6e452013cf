import ConditionRegistry.Proofs.Insertions
import ConditionRegistry.Proofs.Keyed.References
import ConditionRegistry.Proofs.Plans

set_option autoImplicit false

/-!
# Operations side by side on a table

Between the commands of one operation those of others may come, and each may be refused. An
insertion counts on little: that no other has written the record of its id, and later that its
record stands. Other insertions have other ids, so no write of theirs upsets this, and at any time
the table refers only to records that it has.
-/

namespace ConditionRegistry
open Registry

theorem Operation.writes_eq (o : Operation) : o.writes = (o.record?.map insertion).getD [] := by
  cases o <;> rfl

theorem isUuid_of_place {ops : List Operation} (hids : ∀ id ∈ freshIds ops, isUuid id = true)
    {i : Nat} {o : Operation} {e : Record} (ho : ops[i]? = some o) (he : o.record? = some e) :
    isUuid e.id = true := by
  rw [freshIds_eq] at hids
  refine hids e.id (List.mem_filterMap.2 ⟨o, List.mem_of_getElem? ho, ?_⟩)
  exact congrArg (Option.map Record.id) he

namespace Registry.Table

/-! ### Single commands -/

/-- What a table may become by one command of an operation. -/
inductive Wrote (t : Table) (o : Operation) : Table → Prop
  | nothing : Wrote t o t
  | record {e : Record} (he : o.record? = some e)
      (hnew : t.strings.lookup (recordKey e.id) = none) : Wrote t o (t.putRecord e)
  | text {e : Record} (he : o.record? = some e) (h : t.Holds e) : Wrote t o (t.putText e)
  | member {e : Record} (he : o.record? = some e) (h : t.Holds e) : Wrote t o (t.putMember e)

/-- The writes that an operation has left, on a table that has what they count on. -/
inductive Due (t : Table) (o : Operation) : List Command → Prop
  | nothing : Due t o []
  | all {e : Record} (he : o.record? = some e)
      (hnew : t.strings.lookup (recordKey e.id) = none) : Due t o (insertion e)
  | text {e : Record} (he : o.record? = some e) (h : t.Holds e) :
    Due t o [.set (textKey e.text) e.id, .add allKey e.id]
  | member {e : Record} (he : o.record? = some e) (h : t.Holds e) : Due t o [.add allKey e.id]

theorem Due.start (o : Operation) : Due Table.empty o o.writes := by
  rw [o.writes_eq]
  cases he : o.record? with
  | none => exact .nothing
  | some e => exact .all he rfl

def Keeps (t u : Table) : Prop := ∀ e, t.Holds e → u.Holds e

/-- A sound table on which the entry of each text leads to a record with this text. -/
structure Consistent (t : Table) : Prop extends t.Sound where
  texts : ∀ text id, t.strings.lookup (textKey text) = some id →
    ∃ e, t.Holds e ∧ e.id = id ∧ e.text = text

theorem Consistent.empty : Consistent Table.empty where
  toSound := .empty
  texts _ _ h := by cases h

section Wrote
variable {t u : Table} {o : Operation}

theorem Wrote.keeps (hw : Wrote t o u) (h : t.Sound) : Keeps t u := by
  intro d hd
  cases hw with
  | nothing => exact hd
  | @record e _ hnew =>
    -- Nothing stood under the key of the new record, so no record is written over.
    refine (holds_putRecord_of_ne ?_).2 hd
    rintro heq
    rw [Holds, heq, hnew] at hd
    cases hd
  | text _ _ =>
    rw [Holds, lookup_recordKey_putText (h.isApart_of_holds hd)]
    exact hd
  | member _ _ => exact hd

theorem Wrote.consistent (hw : Wrote t o u) (hid : ∀ e, o.record? = some e → isUuid e.id = true)
    (h : t.Consistent) : u.Consistent := by
  have hkeeps := hw.keeps h.toSound
  have hold : ∀ text id, t.strings.lookup (textKey text) = some id →
      ∃ e, u.Holds e ∧ e.id = id ∧ e.text = text := by
    intro text id hsome
    obtain ⟨e, he, hrest⟩ := h.texts text id hsome
    exact ⟨e, hkeeps e he, hrest⟩
  cases hw with
  | nothing => exact h
  | @record e he _ =>
    refine ⟨h.putRecord (hid e he), fun text id hsome => ?_⟩
    rw [lookup_textKey_putRecord (isApart_of_isUuid (hid e he))] at hsome
    exact hold text id hsome
  | @text e he hholds =>
    refine ⟨h.putText (hholds.resolves (hid e he)), fun text id hsome => ?_⟩
    rw [lookup_textKey_putText] at hsome
    split at hsome
    · cases hsome
      rename_i htext
      exact ⟨e, hkeeps e hholds, rfl, htext.symm⟩
    · exact hold text id hsome
  | @member e he hholds => exact ⟨h.putMember (hholds.resolves (hid e he)), hold⟩

theorem Wrote.due (hw : Wrote t o u) (hkeeps : Keeps t u) {other : Operation} {ws : List Command}
    (hne : ∀ e d, o.record? = some e → other.record? = some d → d.id ≠ e.id)
    (hapart : ∀ d, other.record? = some d → IsApart d.id) (hdue : Due t other ws) :
    Due u other ws := by
  cases hdue with
  | nothing => exact .nothing
  | @all d hd hnew =>
    refine .all hd ?_
    cases hw with
    | nothing => exact hnew
    | @record e he _ =>
      rw [putRecord, lookup_set, if_neg (mt recordKey_inj.1 (hne e d he hd))]
      exact hnew
    | text _ _ =>
      rw [lookup_recordKey_putText (hapart d hd)]
      exact hnew
    | member _ _ => exact hnew
  | text hd h => exact .text hd (hkeeps _ h)
  | member hd h => exact .member hd (hkeeps _ h)

end Wrote

/-- A command of an operation does its next write or none, and the writes after it are due. -/
theorem Due.advance {t : Table} {o : Operation} {ws : List Command} {p : TablePlan Outcome}
    (hdue : Due t o ws) (hp : p.Follows Command.IsRead ws)
    (hapart : ∀ e, o.record? = some e → IsApart e.id) (refuses : Command → Bool) :
    Wrote t o (p.advance (handle refuses) t).2 ∧
      ∃ vs, Due (p.advance (handle refuses) t).2 o vs ∧
        (p.advance (handle refuses) t).1.Follows Command.IsRead vs := by
  cases hp with
  | done _ a => exact ⟨.nothing, ws, hdue, .done ws a⟩
  | stop _ s => exact ⟨.nothing, ws, hdue, .stop ws s⟩
  | @quiet _ c next hread hnext =>
    have hsame := handle_snd_of_isRead refuses c t hread
    rw [Plan.advance]
    generalize handle refuses c t = q at hsame
    obtain ⟨s | r, u⟩ := q
    · obtain rfl : u = t := hsame
      exact ⟨.nothing, ws, hdue, .stop ws (.fault s)⟩
    · obtain rfl : u = t := hsame
      exact ⟨.nothing, ws, hdue, hnext r⟩
  | @call vs c next hnext =>
    cases hrefused : refuses c with
    | true =>
      rw [Plan.advance, handle_of_refuses refuses hrefused]
      exact ⟨.nothing, [], .nothing, .stop [] _⟩
    | false =>
      cases hdue with
      | @all e he hnew =>
        have hset : handle refuses (.set (recordKey e.id) (String.ofList e.json)) t =
          (.ok (), t.putRecord e) := by simp [handle, hrefused, putRecord]
        rw [Plan.advance, hset]
        exact ⟨.record he hnew, _, .text he (holds_putRecord_self t e), hnext ()⟩
      | @text e he h =>
        have hset : handle refuses (.set (textKey e.text) e.id) t = (.ok (), t.putText e) := by
          simp [handle, hrefused, putText]
        rw [Plan.advance, hset]
        refine ⟨.text he h, _, .member he ?_, hnext ()⟩
        rw [Holds, lookup_recordKey_putText (hapart e he)]
        exact h
      | @member e he h =>
        have hadd : handle refuses (.add allKey e.id) t = (.ok (), t.putMember e) := by
          simp [handle, hrefused, putMember]
        rw [Plan.advance, hadd]
        exact ⟨.member he h, _, .nothing, hnext ()⟩

/-! ### Turns at a table -/

/-- What remains of the operation at a place, on a table that has what it counts on. -/
def Expects (ops : List Operation) (i : Nat) (p : TablePlan Outcome) (t : Table) : Prop :=
  ∃ o ws, ops[i]? = some o ∧ Due t o ws ∧ p.Follows Command.IsRead ws

theorem compatible {ops : List Operation} (hn : (freshIds ops).Nodup)
    (hids : ∀ id ∈ freshIds ops, isUuid id = true) :
    Plan.Compatible (fun refused : Bool => handle fun _ => refused) Consistent (Expects ops)
      Keeps where
  refl _ _ h := h
  trans h h' e he := h' e (h e he)
  own := by
    rintro i p t ht ⟨o, ws, ho, hdue, hp⟩ k
    have hid : ∀ e, o.record? = some e → isUuid e.id = true :=
      fun e he => isUuid_of_place hids ho he
    obtain ⟨hwrote, vs, hnext⟩ :=
      hdue.advance hp (fun e he => isApart_of_isUuid (hid e he)) fun _ => k
    exact ⟨hwrote.consistent hid ht, ⟨o, vs, ho, hnext⟩, hwrote.keeps ht.toSound⟩
  others := by
    rintro i j p q t hij ht ⟨o, ws, ho, hdue, hp⟩ ⟨other, vs, hother, hdue', hq⟩ k
    have hapart : ∀ e, o.record? = some e → IsApart e.id :=
      fun e he => isApart_of_isUuid (isUuid_of_place hids ho he)
    have hapart' : ∀ d, other.record? = some d → IsApart d.id :=
      fun d hd => isApart_of_isUuid (isUuid_of_place hids hother hd)
    have hne : ∀ e d, o.record? = some e → other.record? = some d → d.id ≠ e.id :=
      fun e d he hd => id_ne_of_nodup hn hij.symm hother hd ho he
    obtain ⟨hwrote, -⟩ := hdue.advance hp hapart fun _ => k
    exact ⟨other, vs, hother, hwrote.due (hwrote.keeps ht.toSound) hne hapart' hdue', hq⟩

end Registry.Table

def gathered (E : Engine) (ops : List Operation) :
    Plan.Crowd Command Command.Reply Outcome Table :=
  ⟨ops.map fun o => (o.plan E).lower Keyed.carry, Table.empty⟩

theorem gathered_steady (E : Engine) (ops : List Operation) :
    (gathered E ops).Steady Table.Consistent (Table.Expects ops) where
  inv := .empty
  counts i p hp := by
    rw [gathered, List.getElem?_map, Option.map_eq_some_iff] at hp
    obtain ⟨o, ho, rfl⟩ := hp
    exact ⟨o, o.writes, ho, .start o, o.follows_plan E⟩

/-- The table after turns of operations that begin on an empty one. A turn is one command of the
    operation at a place; the table carries it out, or refuses it if the turn says so. -/
def Registry.Table.afterTurns (E : Engine) (ops : List Operation) (turns : List (Nat × Bool)) :
    Table :=
  ((gathered E ops).turns (fun refused => handle fun _ => refused) turns).state

/-- Any operations, among them any saves that bring different UUIDs, take turns in any order, and
    any command may be refused. Then after each turn the entry of a text is the id of a record with
    this text, each member is the id of a record, and what stands under the key of an id is a record
    with this id and is never changed. -/
theorem no_dangling_references (E : Engine) {ops : List Operation} (hn : (freshIds ops).Nodup)
    (hids : ∀ id ∈ freshIds ops, isUuid id = true) (turns : List (Nat × Bool)) :
    let t := Table.afterTurns E ops turns
    (∀ text id, t.strings.lookup (textKey text) = some id →
        ∃ e, t.Holds e ∧ e.id = id ∧ e.text = text) ∧
      (∀ id ∈ t.members allKey, ∃ e, t.Holds e ∧ e.id = id) ∧
      ∀ id json, IsApart id → t.strings.lookup (recordKey id) = some json →
        (∃ e : Record, e.id = id ∧ json = String.ofList e.json) ∧
          ∀ later, (Table.afterTurns E ops (turns ++ later)).strings.lookup (recordKey id) =
            some json := by
  intro t
  have hcompatible := Table.compatible hn hids
  obtain ⟨hsteady, -⟩ := hcompatible.turns (gathered_steady E ops) turns
  refine ⟨hsteady.inv.texts, fun id hid => (hsteady.inv.members id hid).holds, ?_⟩
  intro id json hapart hsome
  have hne := Option.ne_none_iff_exists'.2 ⟨json, hsome⟩
  obtain ⟨e, he, rfl⟩ := (hsteady.inv.records id hapart hne).holds
  obtain rfl : json = String.ofList e.json := Option.some.inj (hsome.symm.trans he)
  refine ⟨⟨e, rfl, rfl⟩, fun later => ?_⟩
  rw [Table.afterTurns, Plan.Crowd.turns_append]
  exact (hcompatible.turns hsteady later).2 e he

def savedTwice : List Operation :=
  [.save "0f8fad5b-d9cb-469f-a165-70867728950e" "First" "x > 1",
    .save "b52b4a14-9c3d-4d8e-8f5a-6d1b2c3e4f50" "Second" " x > 1"]

/-- Both find nothing, both write their records, and the first takes the entry of the text from the
    second. Then it is refused its member. -/
def crossed : List (Nat × Bool) :=
  [(0, false), (1, false), (0, false), (1, false), (1, false), (0, false), (0, true)]

/-- Of the two records, the second is a member at the end. -/
theorem no_dangling_references_crossed :
    (Table.afterTurns Language.engine savedTwice crossed).strings.lookup (textKey "x > 1") =
        some "0f8fad5b-d9cb-469f-a165-70867728950e" ∧
      (∃ e, (Table.afterTurns Language.engine savedTwice crossed).Holds e ∧
        e.id = "0f8fad5b-d9cb-469f-a165-70867728950e" ∧ e.text = "x > 1") ∧
      (Table.afterTurns Language.engine savedTwice (crossed ++ [(1, false)])).Holds
        ⟨"b52b4a14-9c3d-4d8e-8f5a-6d1b2c3e4f50", "Second", "x > 1"⟩ ∧
      (Table.afterTurns Language.engine savedTwice (crossed ++ [(1, false)])).members allKey =
        ["b52b4a14-9c3d-4d8e-8f5a-6d1b2c3e4f50"] := by
  have hentry : (Table.afterTurns Language.engine savedTwice crossed).strings.lookup
      (textKey "x > 1") = some "0f8fad5b-d9cb-469f-a165-70867728950e" := by decide +kernel
  have hsecond : (Table.afterTurns Language.engine savedTwice crossed).strings.lookup
      (recordKey "b52b4a14-9c3d-4d8e-8f5a-6d1b2c3e4f50") =
    some (String.ofList
      (Record.mk "b52b4a14-9c3d-4d8e-8f5a-6d1b2c3e4f50" "Second" "x > 1").json) := by
    decide +kernel
  have hn : (freshIds savedTwice).Nodup := by decide
  have hids : ∀ id ∈ freshIds savedTwice, isUuid id = true := by decide
  obtain ⟨htexts, -, hrecords⟩ := no_dangling_references Language.engine hn hids crossed
  obtain ⟨-, hlater⟩ := hrecords _ _ (isApart_of_isUuid (by decide)) hsecond
  exact ⟨hentry, htexts _ _ hentry, hlater [(1, false)], by decide +kernel⟩

end ConditionRegistry
