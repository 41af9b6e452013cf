import ConditionRegistry.Proofs.Keyed
import ConditionRegistry.Proofs.Plans

set_option autoImplicit false

/-!
# Saves on a table that refuses commands

Only a save that finds nothing writes, and it makes three writes: the record, the entry of its text
and the member. Nothing takes a write back. So a save that fails leaves the table as it was, unless
one of the last two writes was refused; then it leaves the writes before that one.
-/

namespace ConditionRegistry
open Registry

namespace Registry

/-! ### The writes of an insertion -/

namespace Table

def putRecord (t : Table) (e : Record) : Table := t.set (recordKey e.id) (String.ofList e.json)

def putText (t : Table) (e : Record) : Table := t.set (textKey e.text) e.id

def putMember (t : Table) (e : Record) : Table := t.add allKey e.id

end Table

def Command.IsRead : Command → Prop
  | .get _ | .members _ => True
  | .set _ _ | .add _ _ => False

def insertion (e : Record) : List Command :=
  [.set (recordKey e.id) (String.ofList e.json), .set (textKey e.text) e.id, .add allKey e.id]

section Handle
variable (refuses : Command → Bool)

theorem Table.handle_of_refuses {c : Command} (h : refuses c = true) (t : Table) :
    handle refuses c t = (.error ⟨.storage, "refused"⟩, t) := if_pos h

theorem Table.handle_snd_of_isRead (c : Command) (t : Table) (h : c.IsRead) :
    (handle refuses c t).2 = t := by
  cases hr : refuses c with
  | true => rw [handle_of_refuses refuses hr]
  | false =>
    cases c with
    | get k => simp [handle, hr]
    | members k => simp [handle, hr]
    | set k v => exact h.elim
    | add k m => exact h.elim

variable {α : Type}

theorem Table.run_call_of_refuses {c : Command} (h : refuses c = true)
    (next : c.Reply → TablePlan α) (t : Table) :
    Plan.run (handle refuses) (.call c next) t = (refuse .storage "refused", t) := by
  rw [Plan.run, handle_of_refuses refuses h]
  rfl

theorem Table.run_get_of_served {key : String} (h : refuses (.get key) = false)
    (next : (Command.get key).Reply → TablePlan α) (t : Table) :
    Plan.run (handle refuses) (.call (.get key) next) t =
      (next (t.strings.lookup key)).run (handle refuses) t := by
  have hreply : handle refuses (.get key) t = (.ok (t.strings.lookup key), t) := by
    simp [handle, h]
  rw [Plan.run, hreply]

end Handle

/-! ### What the calls of a store ask of a table -/

namespace Keyed
open Plan

theorem follows_decode (json : String) : Follows Command.IsRead [] (decode json) := by
  unfold decode
  cases Record.ofJson? json.toList with
  | some e => exact .done [] e
  | none => exact .stop [] _

theorem follows_findId (id : String) : Follows Command.IsRead [] (findId id) := by
  refine .quiet trivial fun reply => ?_
  cases reply with
  | none => exact .done [] none
  | some json => exact (follows_decode json).bind fun e => .done [] (some e)

theorem follows_findText (text : String) : Follows Command.IsRead [] (findText text) := by
  refine .quiet trivial fun reply => ?_
  cases reply with
  | none => exact .done [] none
  | some id => exact follows_findId id

theorem follows_insert (e : Record) : Follows Command.IsRead (insertion e) (insert e) :=
  .call fun _ => .call fun _ => .call fun _ => .done [] e

theorem follows_collect (ids : List String) : Follows Command.IsRead [] (collect ids) := by
  induction ids with
  | nil => exact .done [] []
  | cons id r ih =>
    exact (follows_findId id).bind fun e => ih.bind fun es => .done [] (e.toList ++ es)

theorem follows_list : Follows Command.IsRead [] list := .quiet trivial follows_collect

section Run
variable (refuses : Command → Bool) (t : Table)

theorem run_insert (e : Record) :
    (insert e).run (Table.handle refuses) t =
      if refuses (.set (recordKey e.id) (String.ofList e.json)) then (refuse .storage "refused", t)
      else if refuses (.set (textKey e.text) e.id) then (refuse .storage "refused", t.putRecord e)
      else if refuses (.add allKey e.id) then
        (refuse .storage "refused", (t.putRecord e).putText e)
      else (.ok e, t.insert e) := by
  simp only [insert, Plan.run, Table.handle]
  cases refuses (.set (recordKey e.id) (String.ofList e.json)) with
  | true => rfl
  | false =>
    cases refuses (.set (textKey e.text) e.id) with
    | true => rfl
    | false => cases refuses (.add allKey e.id) <;> rfl

variable {α : Type}

section Read
variable {refuses t} {c : StoreCall} (hread : Follows Command.IsRead [] (carry c))
include hread

theorem run_lower_of_reply {r : c.Reply} (h : ((carry c).run (Table.handle refuses) t).1 = .ok r)
    (next : c.Reply → StorePlan α) :
    ((Plan.call c next).lower carry).run (Table.handle refuses) t =
      ((next r).lower carry).run (Table.handle refuses) t := by
  have hsame := hread.run_snd (Table.handle_snd_of_isRead refuses) t
  exact Plan.run_lower_call carry (Prod.ext h hsame) next

theorem run_lower_of_fault {s : Stop Fault}
    (h : ((carry c).run (Table.handle refuses) t).1 = .error s) (next : c.Reply → StorePlan α) :
    ((Plan.call c next).lower carry).run (Table.handle refuses) t = (.error s, t) := by
  have hsame := hread.run_snd (Table.handle_snd_of_isRead refuses) t
  have hrun : (carry c).run (Table.handle refuses) t = (.error s, t) := Prod.ext h hsame
  rw [Plan.lower, Plan.run_bind, hrun]

end Read

theorem run_lower_findText (text : String) (next : Option Record → StorePlan α) :
    ((Plan.call (.findText text) next).lower carry).run (Table.handle refuses) t =
      match ((findText text).run (Table.handle refuses) t).1 with
      | .ok found => ((next found).lower carry).run (Table.handle refuses) t
      | .error s => (.error s, t) := by
  have hread := follows_findText text
  cases hfind : ((findText text).run (Table.handle refuses) t).1 with
  | ok found => exact run_lower_of_reply (c := .findText text) hread hfind next
  | error s => exact run_lower_of_fault (c := .findText text) hread hfind next

theorem run_lower_findId (id : String) (next : Option Record → StorePlan α) :
    ((Plan.call (.findId id) next).lower carry).run (Table.handle refuses) t =
      match ((findId id).run (Table.handle refuses) t).1 with
      | .ok found => ((next found).lower carry).run (Table.handle refuses) t
      | .error s => (.error s, t) := by
  have hread := follows_findId id
  cases hfind : ((findId id).run (Table.handle refuses) t).1 with
  | ok found => exact run_lower_of_reply (c := .findId id) hread hfind next
  | error s => exact run_lower_of_fault (c := .findId id) hread hfind next

theorem run_lower_insert (e : Record) (next : Record → StorePlan α) :
    ((Plan.call (.insert e) next).lower carry).run (Table.handle refuses) t =
      match (insert e).run (Table.handle refuses) t with
      | (.ok d, u) => ((next d).lower carry).run (Table.handle refuses) u
      | (.error s, u) => (.error s, u) := by
  have hrun : ((Plan.call (.insert e) next).lower carry).run (Table.handle refuses) t = _ :=
    Plan.run_bind (Table.handle refuses) (insert e) (fun d => (next d).lower carry) t
  rw [hrun]
  rcases (insert e).run (Table.handle refuses) t with ⟨_ | _, _⟩ <;> rfl

end Run

end Keyed

end Registry

/-! ### What the operations ask of a table -/

/-- The writes that an operation can come to. -/
def Operation.writes : Operation → List Command
  | .save fresh name raw => insertion ⟨fresh, name, normalForm raw⟩
  | .get _ | .list | .evaluate _ _ | .validate _ => []

section Plans
open Plan

theorem follows_get (id : String) :
    Follows Command.IsRead [] ((Service.get id).lower Keyed.carry) := by
  refine (Keyed.follows_findId id).bind fun found => ?_
  cases found with
  | none => exact .stop [] _
  | some e => exact .done [] e

theorem follows_save (E : Engine) (fresh name raw : String) :
    Follows Command.IsRead (insertion ⟨fresh, name, normalForm raw⟩)
      ((Service.save E fresh name raw).lower Keyed.carry) := by
  unfold Service.save
  split
  · exact .stop _ _
  · rw [lower_bind, Service.accept_eq]
    cases check E raw with
    | error r => exact .stop _ _
    | ok u =>
      refine (Keyed.follows_findText (normalForm raw)).quiet_bind fun found => ?_
      cases found with
      | some e => exact .done _ e.id
      | none => exact (Keyed.follows_insert _).bind fun e => .done [] e.id

/-- The commands of an operation are reads, and the writes of an insertion if it is a save. -/
theorem Operation.follows_plan (E : Engine) (o : Operation) :
    Follows Command.IsRead o.writes ((o.plan E).lower Keyed.carry) := by
  cases o with
  | save fresh name raw =>
    rw [plan, lower_bind]
    exact (follows_save E fresh name raw).bind fun _ => .done [] _
  | get id =>
    rw [plan, lower_bind]
    exact (follows_get id).bind fun _ => .done [] _
  | list =>
    rw [plan, lower_bind]
    exact (Keyed.follows_list.bind fun es => .done [] es).bind fun _ => .done [] _
  | evaluate id b =>
    rw [plan, lower_bind]
    refine Follows.bind ?_ fun _ => .done [] _
    unfold Service.evaluate
    split
    · exact .stop [] _
    · rw [lower_bind]
      refine (follows_get id).bind fun e => ?_
      cases ConditionRegistry.evaluate E e.text b with
      | ok truth => exact .done [] truth
      | error s => exact .stop [] s
  | validate raw =>
    rw [plan, lower_bind]
    refine Follows.bind ?_ fun _ => .done [] _
    cases Service.validate E raw with
    | ok u => exact .done [] u
    | error s => exact .stop [] s

end Plans

/-! ### Saves -/

section Save
variable (E : Engine) (refuses : Command → Bool) (t : Table)

theorem stepTable_snd_of_writes {o : Operation} (h : o.writes = []) :
    (stepTable E refuses o t).2 = t := by
  have hfollows := o.follows_plan E
  rw [h] at hfollows
  exact hfollows.run_snd (Table.handle_snd_of_isRead refuses) t

theorem stepTable_save (fresh name raw : String) :
    stepTable E refuses (.save fresh name raw) t =
      if isBlankText name then (refuse .invalidArgument "Name cannot be blank", t)
      else
        match check E raw with
        | .error r => (.error (.fault r.fault), t)
        | .ok () =>
          match ((Keyed.findText (normalForm raw)).run (Table.handle refuses) t).1 with
          | .error s => (.error s, t)
          | .ok (some e) => (.ok (.id e.id), t)
          | .ok none =>
            let e : Record := ⟨fresh, name, normalForm raw⟩
            (((Keyed.insert e).run (Table.handle refuses) t).1.map fun d => .id d.id,
              ((Keyed.insert e).run (Table.handle refuses) t).2) := by
  unfold stepTable Operation.plan
  rw [Plan.lower_bind, Plan.run_bind, Service.save]
  by_cases hname : isBlankText name = true
  · rw [if_pos hname, if_pos hname]
    rfl
  · rw [if_neg hname, if_neg hname, Service.accept_eq, Plan.lower_bind, Plan.run_bind,
      Plan.run_lower_ofAnswer]
    cases check E raw with
    | error r => rfl
    | ok u =>
      simp only [ofCheck, Except.map, Keyed.run_lower_findText]
      cases ((Keyed.findText (normalForm raw)).run (Table.handle refuses) t).1 with
      | error s => rfl
      | ok found =>
        cases found with
        | some e => rfl
        | none =>
          simp only [Keyed.run_lower_insert]
          generalize (Keyed.insert _).run (Table.handle refuses) t = q
          obtain ⟨a, u⟩ := q
          cases a <;> rfl

theorem stepTable_get (id : String) :
    stepTable E refuses (.get id) t =
      match ((Keyed.findId id).run (Table.handle refuses) t).1 with
      | .error s => (.error s, t)
      | .ok (some e) => (.ok (.record e), t)
      | .ok none => (refuse .notFound id, t) := by
  unfold stepTable Operation.plan
  rw [Plan.lower_bind, Plan.run_bind, Service.get, Keyed.run_lower_findId]
  cases ((Keyed.findId id).run (Table.handle refuses) t).1 with
  | error s => rfl
  | ok found => cases found <;> rfl

theorem stepTable_evaluate (id : String) (b : Bindings) :
    stepTable E refuses (.evaluate id b) t =
      if id.isEmpty then (refuse .invalidArgument "ID cannot be null or empty", t)
      else
        match ((Keyed.findId id).run (Table.handle refuses) t).1 with
        | .error s => (.error s, t)
        | .ok (some e) => ((evaluate E e.text b).map .truth, t)
        | .ok none => (refuse .notFound id, t) := by
  unfold stepTable Operation.plan
  rw [Plan.lower_bind, Plan.run_bind, Service.evaluate]
  by_cases hempty : id.isEmpty = true
  · rw [if_pos hempty, if_pos hempty]
    rfl
  · rw [if_neg hempty, if_neg hempty, Plan.lower_bind, Plan.run_bind, Service.get,
      Keyed.run_lower_findId]
    cases ((Keyed.findId id).run (Table.handle refuses) t).1 with
    | error s => rfl
    | ok found =>
      cases found with
      | none => rfl
      | some e =>
        simp only [Plan.lower, Plan.run, Plan.run_lower_ofAnswer]
        cases evaluate E e.text b <;> rfl

end Save

/-- How a save of an accepted record can end; `failed` is every end without a write. -/
inductive SaveResult (refuses : Command → Bool) (t : Table) (e : Record) :
    Answer Outcome × Table → Prop
  | failed (s : Stop Fault) : SaveResult refuses t e (.error s, t)
  | found {d : Record}
      (hfind : ((Keyed.findText e.text).run (Table.handle refuses) t).1 = .ok (some d)) :
    SaveResult refuses t e (.ok (.id d.id), t)
  /-- the entry of the text was refused -/
  | unindexed (hfind : ((Keyed.findText e.text).run (Table.handle refuses) t).1 = .ok none)
      (hrecord : refuses (.set (recordKey e.id) (String.ofList e.json)) = false)
      (htext : refuses (.set (textKey e.text) e.id) = true) :
    SaveResult refuses t e (refuse .storage "refused", t.putRecord e)
  /-- the member was refused -/
  | unlisted (hfind : ((Keyed.findText e.text).run (Table.handle refuses) t).1 = .ok none)
      (hrecord : refuses (.set (recordKey e.id) (String.ofList e.json)) = false)
      (htext : refuses (.set (textKey e.text) e.id) = false)
      (hmember : refuses (.add allKey e.id) = true) :
    SaveResult refuses t e (refuse .storage "refused", (t.putRecord e).putText e)
  | inserted (hfind : ((Keyed.findText e.text).run (Table.handle refuses) t).1 = .ok none) :
    SaveResult refuses t e (.ok (.id e.id), t.insert e)

theorem saveResult (E : Engine) (refuses : Command → Bool) (t : Table) (fresh name raw : String) :
    SaveResult refuses t ⟨fresh, name, normalForm raw⟩
      (stepTable E refuses (.save fresh name raw) t) := by
  rw [stepTable_save]
  by_cases hname : isBlankText name = true
  · rw [if_pos hname]
    exact .failed _
  rw [if_neg hname]
  cases check E raw with
  | error r => exact .failed _
  | ok u =>
    dsimp only
    cases hfind : ((Keyed.findText (normalForm raw)).run (Table.handle refuses) t).1 with
    | error s => exact .failed s
    | ok found =>
      cases found with
      | some d => exact .found hfind
      | none =>
        dsimp only
        rw [Keyed.run_insert]
        split_ifs with hrecord htext hmember
        · exact .failed _
        · exact .unindexed hfind (by simpa using hrecord) htext
        · exact .unlisted hfind (by simpa using hrecord) (by simpa using htext) hmember
        · exact .inserted hfind

/-- Whatever a table holds and refuses, a save that fails changes no set, and no string but for one
    cause: it finds nothing, so it inserts a record, and the table refuses a later write than the
    first. Then the writes before that one stay. -/
theorem failed_save_leaves (E : Engine) (refuses : Command → Bool) (t : Table)
    (fresh name raw : String) (s : Stop Fault)
    (h : (stepTable E refuses (.save fresh name raw) t).1 = .error s) :
    let e : Record := ⟨fresh, name, normalForm raw⟩
    let left := (stepTable E refuses (.save fresh name raw) t).2
    left.sets = t.sets ∧
      (left = t ∨
        s = .fault ⟨.storage, "refused"⟩ ∧
          ((Keyed.findText e.text).run (Table.handle refuses) t).1 = .ok none ∧
          refuses (.set (recordKey e.id) (String.ofList e.json)) = false ∧
          (refuses (.set (textKey e.text) e.id) = true ∧ left = t.putRecord e ∨
            refuses (.set (textKey e.text) e.id) = false ∧ refuses (.add allKey e.id) = true ∧
              left = (t.putRecord e).putText e)) := by
  have hresult := saveResult E refuses t fresh name raw
  generalize stepTable E refuses (.save fresh name raw) t = q at h hresult
  cases hresult with
  | failed s => exact ⟨rfl, .inl rfl⟩
  | found _ => cases h
  | unindexed hfind hrecord htext =>
    cases h
    exact ⟨rfl, .inr ⟨rfl, hfind, hrecord, .inl ⟨htext, rfl⟩⟩⟩
  | unlisted hfind hrecord htext hmember =>
    cases h
    exact ⟨rfl, .inr ⟨rfl, hfind, hrecord, .inr ⟨htext, hmember, rfl⟩⟩⟩
  | inserted _ => cases h

/-- A table with one record that takes no more members. -/
def fullTable : Table :=
  Table.empty.insert ⟨"0f8fad5b-d9cb-469f-a165-70867728950e", "First", "x > 1"⟩

def refusesMembers : Command → Bool
  | .add _ _ => true
  | .get _ | .set _ _ | .members _ => false

/-- Of a second record, all but the member is left. -/
theorem failed_save_leaves_unlisted :
    (stepTable Language.engine refusesMembers
        (.save "b52b4a14-9c3d-4d8e-8f5a-6d1b2c3e4f50" "Second" " x > 5 AND y < 10") fullTable).1 =
      refuse .storage "refused" ∧
    (stepTable Language.engine refusesMembers
        (.save "b52b4a14-9c3d-4d8e-8f5a-6d1b2c3e4f50" "Second" " x > 5 AND y < 10") fullTable).2 =
      (fullTable.putRecord
        ⟨"b52b4a14-9c3d-4d8e-8f5a-6d1b2c3e4f50", "Second", "x > 5 && y < 10"⟩).putText
        ⟨"b52b4a14-9c3d-4d8e-8f5a-6d1b2c3e4f50", "Second", "x > 5 && y < 10"⟩ := by
  have hrefused : (stepTable Language.engine refusesMembers
      (.save "b52b4a14-9c3d-4d8e-8f5a-6d1b2c3e4f50" "Second" " x > 5 AND y < 10") fullTable).1 =
    refuse .storage "refused" := by decide +kernel
  have hnormal : normalForm " x > 5 AND y < 10" = "x > 5 && y < 10" := by decide +kernel
  obtain ⟨-, hsame | ⟨-, -, -, ⟨htext, -⟩ | ⟨-, -, hleft⟩⟩⟩ :=
    failed_save_leaves Language.engine refusesMembers fullTable
      "b52b4a14-9c3d-4d8e-8f5a-6d1b2c3e4f50" "Second" " x > 5 AND y < 10" _ hrefused
  · exact absurd hsame (by decide +kernel)
  · cases htext
  · rw [hnormal] at hleft
    exact ⟨hrefused, hleft⟩

/-- The first save on an empty table fails and leaves a record. -/
theorem failed_save_leaves_record :
    (stepTable Language.engine refusesMembers
        (.save "0f8fad5b-d9cb-469f-a165-70867728950e" "First" "x > 1") Table.empty).1 =
      refuse .storage "refused" ∧
    (stepTable Language.engine refusesMembers
        (.save "0f8fad5b-d9cb-469f-a165-70867728950e" "First" "x > 1") Table.empty).2 ≠
      Table.empty := by
  decide +kernel

end ConditionRegistry
