import ConditionRegistry.Proofs.Insertions
import ConditionRegistry.Proofs.Plans

set_option autoImplicit false

/-!
# Calls to a store in which texts may come again

Where calls of other operations come between the lookup of a save and its insertion, a text may be
inserted twice. Then the last record with the text holds it, and the store is a list of records with
different ids still. An operation has one call or two: the first answers it, or it leaves the
insertion of one record.
-/

namespace ConditionRegistry
open Registry

/-! ### Lists in which texts may come again -/

namespace Ledger

/-- The record that took a text last. -/
def latest? (l : Ledger) (text : String) : Option Record := l.reverse.find? fun e => e.text = text

theorem latest?_concat (l : Ledger) (e : Record) (text : String) :
    latest? (l ++ [e]) text = if text = e.text then some e else l.latest? text :=
  find?_reverse_concat Record.text l e text

theorem latest?_eq_none_iff (l : Ledger) (text : String) :
    l.latest? text = none ↔ text ∉ l.texts := by
  rw [latest?, find?_eq_none_iff Record.text, List.map_reverse, List.mem_reverse]
  rfl

theorem of_latest?_eq_some {l : Ledger} {text : String} {e : Record} (h : l.latest? text = some e) :
    e ∈ l ∧ e.text = text :=
  ⟨List.mem_reverse.1 (List.mem_of_find?_eq_some h), by simpa using List.find?_some h⟩

end Ledger

namespace Registry.Memory

structure Holds (m : Memory) (l : Ledger) : Prop where
  records : ∀ id, m.findId id = l.recordOf? id
  holders : ∀ text, m.holders.lookup text = (l.latest? text).map Record.id
  order : m.order = l.ids
  ids : l.ids.Nodup

namespace Holds
variable {m : Memory} {l : Ledger}

theorem empty : Holds Memory.empty [] where
  records _ := rfl
  holders _ := rfl
  order := rfl
  ids := List.nodup_nil

theorem findId_of_mem (h : Holds m l) {e : Record} (he : e ∈ l) : m.findId e.id = some e :=
  findId_eq_of_mem h.records h.ids he

theorem findText (h : Holds m l) (text : String) : m.findText text = l.latest? text :=
  findText_eq h.records h.ids (h.holders text) fun _ he => (Ledger.of_latest?_eq_some he).1

theorem list (h : Holds m l) : m.list = l := list_eq h.records h.ids h.order

theorem insert (h : Holds m l) (e : Record) (hid : e.id ∉ l.ids) :
    Holds (m.insert e) (l ++ [e]) where
  records id := by
    rw [findId_insert, h.records]
    exact (Ledger.find?_concat Record.id l e hid id).symm
  holders text := by
    have hput : (m.insert e).holders.lookup text = _ := lookup_put e.text text e.id m.holders
    rw [hput, h.holders, Ledger.latest?_concat]
    split <;> rfl
  order := order_insert h.records h.order hid
  ids := by
    rw [Ledger.ids_concat]
    exact h.ids.concat hid

end Holds

end Registry.Memory

/-! ### Single calls -/

def Operation.looksUp (E : Engine) (text : String) : Operation → Bool
  | .save _ name raw =>
    !isBlankText name && decide (check E raw = .ok ()) && decide (normalForm raw = text)
  | .get _ | .list | .evaluate _ _ | .validate _ => false

/-- The record that an operation inserts if its lookup comes upon a store. -/
def Operation.insertion? (E : Engine) (o : Operation) (m : Memory) : Option Record :=
  o.record?.filter fun e => o.looksUp E e.text && (m.findText e.text).isNone

def inserting (e : Record) : StorePlan Outcome :=
  .call (.insert e) fun (d : Record) => .done (.id d.id)

section Calls
variable {E : Engine} {m : Memory}

theorem insertion?_eq_some_iff {o : Operation} {e : Record} :
    o.insertion? E m = some e ↔
      o.record? = some e ∧ o.looksUp E e.text = true ∧ m.findText e.text = none := by
  simp [Operation.insertion?, Option.filter_eq_some_iff]

theorem plan_save (fresh name raw : String) :
    (∃ s, (Operation.save fresh name raw).plan E = .stop s ∧
        ∀ text, (Operation.save fresh name raw).looksUp E text = false) ∨
      ((Operation.save fresh name raw).looksUp E (normalForm raw) = true ∧
        (Operation.save fresh name raw).plan E =
          .call (.findText (normalForm raw)) fun (found : Option Record) =>
            match found with
            | some e => .done (.id e.id)
            | none => inserting ⟨fresh, name, normalForm raw⟩) := by
  have hplan : (Operation.save fresh name raw).plan E =
    (Service.save E fresh name raw).bind fun id => .done (.id id) := rfl
  rw [Service.save, Service.accept_eq] at hplan
  by_cases hname : isBlankText name = true
  · rw [if_pos hname] at hplan
    exact .inl ⟨_, hplan, fun text => by simp [Operation.looksUp, hname]⟩
  · rw [if_neg hname] at hplan
    cases hc : check E raw with
    | error r =>
      rw [hc] at hplan
      exact .inl ⟨_, hplan, fun text => by simp [Operation.looksUp, hc]⟩
    | ok u =>
      rw [hc] at hplan
      refine .inr ⟨by simp [Operation.looksUp, hname, hc], hplan.trans ?_⟩
      refine congrArg (Plan.call _) (funext fun (found : Option Record) => ?_)
      cases found <;> rfl

/-- The first call of an operation leaves its insertion, or it answers the operation and leaves
    nothing. -/
theorem advance_plan_cases (o : Operation) :
    ((o.plan E).advance Memory.handle m).2 = m ∧
      ((∃ e, o.insertion? E m = some e ∧
          ((o.plan E).advance Memory.handle m).1 = inserting e) ∨
        (o.insertion? E m = none ∧
          ∃ a, ((o.plan E).advance Memory.handle m).1.answer? = some a)) := by
  cases o with
  | save fresh name raw =>
    obtain ⟨s, hplan, hno⟩ | ⟨hlooks, hplan⟩ := plan_save (E := E) fresh name raw
    · rw [hplan]
      refine ⟨rfl, .inr ⟨?_, _, rfl⟩⟩
      simp [Operation.insertion?, Operation.record?, hno]
    · have hadvance : ((Operation.save fresh name raw).plan E).advance Memory.handle m =
          ((match m.findText (normalForm raw) with
            | some e => .done (.id e.id)
            | none => inserting ⟨fresh, name, normalForm raw⟩), m) := by rw [hplan]; rfl
      rw [hadvance]
      refine ⟨rfl, ?_⟩
      cases hf : m.findText (normalForm raw) with
      | some e => exact .inr ⟨by simp [Operation.insertion?, Operation.record?, hf], _, rfl⟩
      | none => exact .inl ⟨_, insertion?_eq_some_iff.2 ⟨rfl, hlooks, hf⟩, rfl⟩
  | get id =>
    refine ⟨rfl, .inr ⟨rfl, ?_⟩⟩
    change ∃ a, (Plan.bind (match m.findId id with
      | some e => _
      | none => _) _).answer? = some a
    cases m.findId id <;> exact ⟨_, rfl⟩
  | list => exact ⟨rfl, .inr ⟨rfl, _, rfl⟩⟩
  | evaluate id b =>
    have hplan : (Operation.evaluate id b).plan E =
      (Service.evaluate E id b).bind fun t => .done (.truth t) := rfl
    rw [hplan, Service.evaluate]
    by_cases hid : id.isEmpty = true
    · rw [if_pos hid]
      exact ⟨rfl, .inr ⟨rfl, _, rfl⟩⟩
    · rw [if_neg hid]
      refine ⟨rfl, .inr ⟨rfl, ?_⟩⟩
      change ∃ a, (Plan.bind (Plan.bind (match m.findId id with
        | some e => _
        | none => _) _) _).answer? = some a
      cases m.findId id with
      | none => exact ⟨_, rfl⟩
      | some e =>
        change ∃ a, (Plan.bind (Plan.ofAnswer (evaluate E e.text b)) _).answer? = some a
        cases evaluate E e.text b <;> exact ⟨_, rfl⟩
  | validate raw =>
    have hplan : (Operation.validate raw).plan E =
      (Plan.ofAnswer (Service.validate E raw)).bind fun _ => .done .valid := rfl
    rw [hplan]
    cases Service.validate E raw <;> exact ⟨rfl, .inr ⟨rfl, _, rfl⟩⟩

theorem advance_plan_of_insertion {o : Operation} {e : Record} (h : o.insertion? E m = some e) :
    (o.plan E).advance Memory.handle m = (inserting e, m) := by
  obtain ⟨hm, ⟨d, hd, hp⟩ | ⟨hnone, -⟩⟩ := advance_plan_cases (E := E) (m := m) o
  · cases hd.symm.trans h
    exact Prod.ext hp hm
  · cases hnone.symm.trans h

theorem advance_plan_of_none {o : Operation} (h : o.insertion? E m = none) :
    (o.plan E).advance Memory.handle m = (Plan.ofAnswer (stepMemory E o m).1, m) := by
  obtain ⟨hm, ⟨d, hd, -⟩ | ⟨-, a, ha⟩⟩ := advance_plan_cases (E := E) (m := m) o
  · cases hd.symm.trans h
  · have hrun := Plan.advance_of_answer? ha
    rw [hrun] at hm ⊢
    exact Prod.ext rfl hm

theorem answer_of_findText {o : Operation} {text : String} {e : Record}
    (hlooks : o.looksUp E text = true) (hf : m.findText text = some e) :
    o.insertion? E m = none ∧ (stepMemory E o m).1 = .ok (.id e.id) := by
  cases o with
  | save fresh name raw =>
    simp only [Operation.looksUp, Bool.and_eq_true, Bool.not_eq_true', decide_eq_true_eq] at hlooks
    obtain ⟨⟨hname, hc⟩, rfl⟩ := hlooks
    refine ⟨by simp [Operation.insertion?, Operation.record?, hf], ?_⟩
    simp [stepMemory_save, hname, hc, hf]
  | get id => cases hlooks
  | list => cases hlooks
  | evaluate id b => cases hlooks
  | validate raw => cases hlooks

theorem stepMemory_eq_id {l : Ledger} (hm : m.Holds l) {o : Operation} {id : String}
    (h : (stepMemory E o m).1 = .ok (.id id)) :
    ∃ fresh name raw e, o = .save fresh name raw ∧ e.id = id ∧ e.text = normalForm raw ∧
      (e ∈ l ∨ o.insertion? E m = some e) := by
  cases o with
  | save fresh name raw =>
    refine ⟨fresh, name, raw, ?_⟩
    rw [stepMemory_save] at h
    by_cases hname : isBlankText name = true
    · rw [if_pos hname] at h
      cases h
    · rw [if_neg hname] at h
      cases hc : check E raw with
      | error r =>
        rw [hc] at h
        cases h
      | ok u =>
        rw [hc, hm.findText] at h
        cases hf : l.latest? (normalForm raw) with
        | some e =>
          rw [hf] at h
          cases h
          have hlatest := Ledger.of_latest?_eq_some hf
          exact ⟨e, rfl, rfl, hlatest.2, .inl hlatest.1⟩
        | none =>
          rw [hf] at h
          cases h
          refine ⟨⟨_, name, normalForm raw⟩, rfl, rfl, rfl, .inr ?_⟩
          rw [insertion?_eq_some_iff, hm.findText]
          exact ⟨rfl, by simp [Operation.looksUp, hname, hc], hf⟩
  | get id =>
    rw [stepMemory_get] at h
    cases hf : m.findId id <;> rw [hf] at h <;> cases h
  | list => cases h
  | evaluate id b =>
    rw [stepMemory_evaluate] at h
    split at h
    · cases h
    · cases hf : m.findId id with
      | none =>
        rw [hf] at h
        cases h
      | some e =>
        rw [hf] at h
        cases ht : evaluate E e.text b <;> simp only [ht] at h <;> cases h
  | validate raw =>
    rw [stepMemory_validate] at h
    cases hv : Service.validate E raw <;> rw [hv] at h <;> cases h

theorem stepMemory_of_insertion {o : Operation} {e : Record} (h : o.insertion? E m = some e) :
    stepMemory E o m = (.ok (.id e.id), m.insert e) := by
  have hrun : ((o.plan E).advance Memory.handle m).1.run Memory.handle
      ((o.plan E).advance Memory.handle m).2 = stepMemory E o m := Plan.run_advance
  rw [advance_plan_of_insertion h] at hrun
  exact hrun.symm

end Calls

end ConditionRegistry
