import ConditionRegistry.Proofs.Ledger
import ConditionRegistry.Proofs.RecordText

set_option autoImplicit false

/-!
# A registry on a table is a list of records

The keys of records and the keys of texts are apart as long as no id begins like a text key does.
Then a table that refuses nothing holds exactly what a ledger holds, and the service answers on it
as the ledger does, except that records are listed in another order.
-/

namespace ConditionRegistry
open Registry

/-! ### Plans that are carried out by other plans -/

namespace Plan

variable {C D : Type} {R : C → Type} {S : D → Type} {α β σ : Type}
  (carry : (c : C) → Plan D S (R c))

theorem lower_bind (p : Plan C R α) (f : α → Plan C R β) :
    (p.bind f).lower carry = (p.lower carry).bind fun a => (f a).lower carry := by
  induction p with
  | done a => rfl
  | stop e => rfl
  | call c next ih =>
    change (carry c).bind _ = ((carry c).bind _).bind _
    generalize carry c = q
    induction q with
    | done r => exact ih r
    | stop e => rfl
    | call d more ih' =>
      change Plan.call d _ = Plan.call d _
      exact congrArg (Plan.call d) (funext ih')

variable {handle : Handler D S σ}

theorem run_lower_call {c : C} {s t : σ} {r : R c} (h : (carry c).run handle s = (.ok r, t))
    (next : R c → Plan C R α) :
    ((Plan.call c next).lower carry).run handle s = ((next r).lower carry).run handle t := by
  rw [lower, run_bind, h]

theorem run_lower_ofAnswer (a : Answer α) (s : σ) :
    ((ofAnswer a : Plan C R α).lower carry).run handle s = (a, s) := by
  cases a <;> rfl

end Plan

namespace Registry

/-! ### Keys -/

theorem recordKey_inj {id other : String} : recordKey id = recordKey other ↔ id = other := by
  simp [recordKey]

theorem textKey_inj {text other : String} : textKey text = textKey other ↔ text = other := by
  simp [textKey]

theorem textKey_eq_recordKey_iff {text id : String} :
    textKey text = recordKey id ↔ id = "text:" ++ text := by
  have hkey : textKey text = recordKey ("text:" ++ text) := by
    rw [textKey, recordKey, ← String.append_assoc]
    rfl
  rw [hkey, recordKey_inj, eq_comm]

/-- An id whose record key is the key of no text. -/
def IsApart (id : String) : Prop := ∀ text, id ≠ "text:" ++ text

theorem IsApart.textKey_ne {id : String} (h : IsApart id) (text : String) :
    textKey text ≠ recordKey id :=
  mt textKey_eq_recordKey_iff.1 (h text)

/-! ### Sets -/

theorem insertSorted_perm {s : String} {l : List String} (h : s ∉ l) :
    (insertSorted s l).Perm (s :: l) := by
  induction l with
  | nil => exact List.Perm.refl _
  | cons t r ih =>
    rw [List.mem_cons, not_or] at h
    rw [insertSorted, if_neg h.1]
    split
    · exact List.Perm.refl _
    · exact ((ih h.2).cons t).trans (List.Perm.swap s t r)

namespace Table

theorem members_add (t : Table) (key item : String) :
    (t.add key item).members key = insertSorted item (t.members key) := by
  have hput : (t.add key item).sets.lookup key = _ :=
    lookup_put key key (insertSorted item (t.members key)) t.sets
  rw [members, hput, if_pos rfl]
  rfl

def serve : Plan.Handler Command Command.Reply Table := handle fun _ => false

def insert (t : Table) (e : Record) : Table :=
  ((t.set (recordKey e.id) (String.ofList e.json)).set (textKey e.text) e.id).add allKey e.id

theorem lookup_insert (t : Table) (e : Record) (key : String) :
    (t.insert e).strings.lookup key =
      if key = textKey e.text then some e.id
      else if key = recordKey e.id then some (String.ofList e.json)
      else t.strings.lookup key := by
  change (put _ _ (put _ _ t.strings)).lookup key = _
  rw [lookup_put, lookup_put]

theorem run_get {α : Type} (t : Table) (key : String)
    (next : (Command.get key).Reply → TablePlan α) :
    Plan.run serve (.call (.get key) next) t = (next (t.strings.lookup key)).run serve t := rfl

end Table

end Registry

theorem Ledger.filterMap_ids {l : Ledger} (h : l.ids.Nodup) : l.ids.filterMap l.recordOf? = l := by
  rw [Ledger.ids, List.filterMap_map]
  calc
    _ = l.filterMap some := List.filterMap_congr fun e he =>
      (Ledger.find?_eq_some_iff Record.id l h e.id e).2 ⟨he, rfl⟩
    _ = l := List.filterMap_some

/-! ### The table mirrors a ledger -/

namespace Registry.Table

structure Mirrors (t : Table) (l : Ledger) : Prop where
  records : ∀ id, IsApart id →
    t.strings.lookup (recordKey id) = (l.recordOf? id).map fun e => String.ofList e.json
  holders : ∀ text, t.strings.lookup (textKey text) = (l.holder? text).map Record.id
  members : (t.members allKey).Perm l.ids
  apart : ∀ id ∈ l.ids, IsApart id
  ids : l.ids.Nodup
  texts : l.texts.Nodup

namespace Mirrors
variable {t : Table} {l : Ledger}

theorem empty : Mirrors Table.empty [] where
  records _ _ := rfl
  holders _ := rfl
  members := List.Perm.refl _
  apart := fun _ h => by cases h
  ids := List.nodup_nil
  texts := List.nodup_nil

theorem insert (h : Mirrors t l) (e : Record) (hapart : IsApart e.id) (hid : e.id ∉ l.ids)
    (htext : e.text ∉ l.texts) : Mirrors (t.insert e) (l ++ [e]) where
  records id happ := by
    have hfind : Ledger.recordOf? (l ++ [e]) id = _ := Ledger.find?_concat Record.id l e hid id
    rw [lookup_insert, if_neg (happ.textKey_ne e.text).symm, hfind, h.records id happ]
    by_cases heq : id = e.id
    · rw [if_pos (recordKey_inj.2 heq), if_pos heq]
      rfl
    · rw [if_neg (mt recordKey_inj.1 heq), if_neg heq]
      rfl
  holders text := by
    have hfind : (l ++ [e]).holder? text = _ := Ledger.find?_concat Record.text l e htext text
    rw [lookup_insert, if_neg (hapart.textKey_ne text), hfind, h.holders text]
    by_cases heq : text = e.text
    · rw [if_pos (textKey_inj.2 heq), if_pos heq]
      rfl
    · rw [if_neg (mt textKey_inj.1 heq), if_neg heq]
      rfl
  members := by
    have hnew : e.id ∉ t.members allKey := fun hmem => hid (h.members.mem_iff.1 hmem)
    have hadd : (t.insert e).members allKey = _ := members_add _ allKey e.id
    rw [hadd, Ledger.ids_concat, List.concat_eq_append]
    exact (insertSorted_perm hnew).trans
      ((h.members.cons e.id).trans (List.perm_append_singleton e.id l.ids).symm)
  apart id hmem := by
    rw [Ledger.ids_concat, List.concat_eq_append, List.mem_append, List.mem_singleton] at hmem
    rcases hmem with hold | rfl
    · exact h.apart id hold
    · exact hapart
  ids := by
    rw [Ledger.ids_concat]
    exact h.ids.concat hid
  texts := by
    rw [Ledger.texts_concat]
    exact h.texts.concat htext

/-! ### What each call of a store comes to -/

theorem run_findId (h : Mirrors t l) {id : String} (hid : IsApart id) :
    (Keyed.findId id).run serve t = (.ok (l.recordOf? id), t) := by
  rw [Keyed.findId, run_get, h.records id hid]
  cases l.recordOf? id with
  | none => rfl
  | some e =>
    simp only [Option.map_some, Keyed.decode, String.toList_ofList, Record.ofJson?_json]
    rfl

theorem run_findText (h : Mirrors t l) (text : String) :
    (Keyed.findText text).run serve t = (.ok (l.holder? text), t) := by
  rw [Keyed.findText, run_get, h.holders text]
  cases hf : l.holder? text with
  | none => rfl
  | some e =>
    have hmem : e ∈ l := List.mem_of_find?_eq_some hf
    have hentry : l.recordOf? e.id = some e :=
      (Ledger.find?_eq_some_iff Record.id l h.ids e.id e).2 ⟨hmem, rfl⟩
    have hfind := h.run_findId (h.apart e.id (List.mem_map_of_mem hmem))
    rwa [hentry] at hfind

theorem run_collect (h : Mirrors t l) (ids : List String) (hids : ∀ id ∈ ids, IsApart id) :
    (Keyed.collect ids).run serve t = (.ok (ids.filterMap l.recordOf?), t) := by
  induction ids with
  | nil => rfl
  | cons id r ih =>
    rw [Keyed.collect, Plan.run_bind, h.run_findId (hids id List.mem_cons_self)]
    simp only [Plan.run_bind, ih fun d hd => hids d (List.mem_cons_of_mem id hd), Plan.run,
      List.filterMap_cons]
    cases l.recordOf? id <;> rfl

theorem run_list (h : Mirrors t l) :
    ∃ es, Keyed.list.run serve t = (.ok es, t) ∧ l.Perm es := by
  refine ⟨_, h.run_collect _ fun id hid => h.apart id (h.members.mem_iff.1 hid), ?_⟩
  have hall := h.members.filterMap l.recordOf?
  rw [Ledger.filterMap_ids h.ids] at hall
  exact hall.symm

section Calls
variable {α : Type} (h : Mirrors t l)
include h

theorem run_lower_findText (text : String)
    (next : Option Record → StorePlan α) :
    ((Plan.call (.findText text) next).lower Keyed.carry).run serve t =
      ((next (l.holder? text)).lower Keyed.carry).run serve t :=
  Plan.run_lower_call Keyed.carry (c := .findText text) (h.run_findText text) next

theorem run_lower_findId {id : String} (hid : IsApart id)
    (next : Option Record → StorePlan α) :
    ((Plan.call (.findId id) next).lower Keyed.carry).run serve t =
      ((next (l.recordOf? id)).lower Keyed.carry).run serve t :=
  Plan.run_lower_call Keyed.carry (c := .findId id) (h.run_findId hid) next

end Calls

end Mirrors

end Registry.Table

/-! ### What each operation does -/

/-- The same answer, up to the order of a listing. -/
inductive SameAnswer : Answer Outcome → Answer Outcome → Prop
  | same (a : Answer Outcome) : SameAnswer a a
  | listed {es ds : List Record} (h : es.Perm ds) :
    SameAnswer (.ok (.records es)) (.ok (.records ds))

def Operation.ids : Operation → List String
  | .save fresh _ _ => [fresh]
  | .get id | .evaluate id _ => [id]
  | .list | .validate _ => []

def stepServing (E : Engine) (o : Operation) (t : Table) : Answer Outcome × Table :=
  ((o.plan E).lower Keyed.carry).run Table.serve t

section Steps
variable {t : Table} {l : Ledger} (E : Engine) (h : Table.Mirrors t l)
include h

theorem stepServing_save (fresh name raw : String) :
    stepServing E (.save fresh name raw) t =
      if isBlankText name then (refuse .invalidArgument "Name cannot be blank", t)
      else
        match check E raw with
        | .error r => (.error (.fault r.fault), t)
        | .ok () =>
          match l.holder? (normalForm raw) with
          | some e => (.ok (.id e.id), t)
          | none => (.ok (.id fresh), t.insert ⟨fresh, name, normalForm raw⟩) := by
  unfold stepServing Operation.plan
  rw [Plan.lower_bind, Plan.run_bind, Service.save]
  by_cases hname : isBlankText name = true
  · rw [if_pos hname, if_pos hname]
    rfl
  · rw [if_neg hname, if_neg hname, Service.accept_eq, Plan.lower_bind, Plan.run_bind,
      Plan.run_lower_ofAnswer]
    cases check E raw with
    | error r => rfl
    | ok u =>
      simp only [ofCheck, Except.map]
      rw [h.run_lower_findText (normalForm raw)]
      cases l.holder? (normalForm raw) <;> rfl

theorem stepServing_get {id : String} (hid : IsApart id) :
    stepServing E (.get id) t =
      match l.recordOf? id with
      | some e => (.ok (.record e), t)
      | none => (refuse .notFound id, t) := by
  unfold stepServing Operation.plan
  rw [Plan.lower_bind, Plan.run_bind, Service.get, h.run_lower_findId hid]
  cases l.recordOf? id <;> rfl

theorem stepServing_list :
    ∃ es, stepServing E .list t = (.ok (.records es), t) ∧ List.Perm l es := by
  obtain ⟨es, hrun, hperm⟩ := h.run_list
  have hcall : (Service.list.lower Keyed.carry).run Table.serve t = (.ok es, t) :=
    Plan.run_lower_call Keyed.carry (c := .list) hrun (.done ·)
  refine ⟨es, ?_, hperm⟩
  unfold stepServing Operation.plan
  rw [Plan.lower_bind, Plan.run_bind, hcall]
  rfl

theorem stepServing_evaluate {id : String} (hid : IsApart id) (b : Bindings) :
    stepServing E (.evaluate id b) t =
      if id.isEmpty then (refuse .invalidArgument "ID cannot be null or empty", t)
      else
        match l.recordOf? id with
        | some e => ((evaluate E e.text b).map .truth, t)
        | none => (refuse .notFound id, t) := by
  unfold stepServing Operation.plan
  rw [Plan.lower_bind, Plan.run_bind, Service.evaluate]
  by_cases hempty : id.isEmpty = true
  · rw [if_pos hempty, if_pos hempty]
    rfl
  · rw [if_neg hempty, if_neg hempty, Plan.lower_bind, Plan.run_bind, Service.get,
      h.run_lower_findId hid]
    cases l.recordOf? id with
    | none => rfl
    | some e =>
      simp only [Plan.lower, Plan.run, Plan.run_lower_ofAnswer]
      cases evaluate E e.text b <;> rfl

omit h in
theorem stepServing_validate (raw : String) (t : Table) :
    stepServing E (.validate raw) t = ((Service.validate E raw).map fun _ => .valid, t) := by
  unfold stepServing Operation.plan
  rw [Plan.lower_bind, Plan.run_bind, Plan.run_lower_ofAnswer]
  cases Service.validate E raw <;> rfl

end Steps

namespace Registry.Table.Mirrors
variable {t : Table} {l : Ledger}

theorem step (E : Engine) (h : Mirrors t l) (o : Operation) (hapart : ∀ id ∈ o.ids, IsApart id)
    (hfresh : ∀ id ∈ freshIds [o], id ∉ l.ids) :
    SameAnswer (l.step E o).1 (stepServing E o t).1 ∧
      Mirrors (stepServing E o t).2 (l.step E o).2 := by
  cases o with
  | save fresh name raw =>
    have hid : fresh ∉ l.ids := hfresh fresh (by simp [freshIds])
    rw [stepServing_save E h, Ledger.step, Ledger.save]
    by_cases hname : isBlankText name = true
    · simp only [hname, if_true]
      exact ⟨.same _, h⟩
    · simp only [hname]
      cases check E raw with
      | error r => exact ⟨.same _, h⟩
      | ok u =>
        dsimp only
        cases hf : l.holder? (normalForm raw) with
        | some e => exact ⟨.same _, h⟩
        | none =>
          exact ⟨.same _, h.insert _ (hapart fresh (by simp [Operation.ids])) hid
            ((Ledger.find?_eq_none_iff Record.text l _).1 hf)⟩
  | get id =>
    rw [stepServing_get E h (hapart id (by simp [Operation.ids])), Ledger.step, Ledger.get]
    cases l.recordOf? id <;> exact ⟨.same _, h⟩
  | list =>
    obtain ⟨es, hlist, hperm⟩ := stepServing_list E h
    rw [hlist]
    exact ⟨.listed hperm, h⟩
  | evaluate id b =>
    rw [stepServing_evaluate E h (hapart id (by simp [Operation.ids])), Ledger.step,
      Ledger.evaluate, Ledger.get]
    by_cases hid : id.isEmpty = true
    · simp only [hid, if_true]
      exact ⟨.same _, h⟩
    · simp only [hid]
      cases l.recordOf? id <;> exact ⟨.same _, h⟩
  | validate raw =>
    rw [stepServing_validate]
    exact ⟨.same _, h⟩

theorem run (E : Engine) (ops : List Operation) (h : Mirrors t l) (hn : (freshIds ops).Nodup)
    (hapart : ∀ o ∈ ops, ∀ id ∈ o.ids, IsApart id) (hfresh : ∀ id ∈ freshIds ops, id ∉ l.ids) :
    List.Forall₂ SameAnswer (runAll (Ledger.step E) ops l).1 (runAll (stepServing E) ops t).1 ∧
      Mirrors (runAll (stepServing E) ops t).2 (runAll (Ledger.step E) ops l).2 := by
  induction ops generalizing t l with
  | nil => exact ⟨.nil, h⟩
  | cons o r ih =>
    obtain ⟨ho, hr, hlater⟩ := Ledger.fresh_cons E hn hfresh
    obtain ⟨hanswer, hnext⟩ := h.step E o (hapart o List.mem_cons_self) ho
    obtain ⟨hanswers, hend⟩ := ih hnext hr (fun d hd => hapart d (List.mem_cons_of_mem o hd)) hlater
    exact ⟨.cons hanswer hanswers, hend⟩

end Registry.Table.Mirrors

end ConditionRegistry
