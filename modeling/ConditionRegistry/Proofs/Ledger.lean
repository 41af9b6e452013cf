import ConditionRegistry.Language.Engine
import ConditionRegistry.Proofs.Validation
import ConditionRegistry.Service
import Mathlib.Data.List.Nodup

set_option autoImplicit false

/-!
# A registry in memory is a list of records

The ledger is the plain account of a registry: records in the order in which their conditions were
accepted first. The store in memory keeps records, holders of texts and the order apart; over any
run of operations it answers as the ledger does, provided that no id is handed out twice.
-/

namespace ConditionRegistry
open Registry

/-- The accepted conditions, the oldest first. -/
abbrev Ledger := List Record

namespace Ledger

def ids (l : Ledger) : List String := l.map Record.id

def texts (l : Ledger) : List String := l.map Record.text

def recordOf? (l : Ledger) (id : String) : Option Record := l.find? fun e => e.id = id

def holder? (l : Ledger) (text : String) : Option Record := l.find? fun e => e.text = text

/-- A text that is held already keeps its id and its name. -/
def save (E : Engine) (fresh name raw : String) (l : Ledger) : Answer String × Ledger :=
  if isBlankText name then (refuse .invalidArgument "Name cannot be blank", l)
  else
    match check E raw with
    | .error r => (.error (.fault r.fault), l)
    | .ok () =>
      match l.holder? (normalForm raw) with
      | some e => (.ok e.id, l)
      | none => (.ok fresh, l ++ [⟨fresh, name, normalForm raw⟩])

def get (id : String) (l : Ledger) : Answer Record :=
  match l.recordOf? id with
  | some e => .ok e
  | none => refuse .notFound id

def evaluate (E : Engine) (id : String) (b : Bindings) (l : Ledger) : Answer Bool :=
  if id.isEmpty then refuse .invalidArgument "ID cannot be null or empty"
  else
    match l.get id with
    | .ok e => ConditionRegistry.evaluate E e.text b
    | .error s => .error s

def step (E : Engine) : Operation → Ledger → Answer Outcome × Ledger
  | .save fresh name raw, l => ((l.save E fresh name raw).1.map .id, (l.save E fresh name raw).2)
  | .get id, l => ((l.get id).map .record, l)
  | .list, l => (.ok (.records l), l)
  | .evaluate id b, l => ((l.evaluate E id b).map .truth, l)
  | .validate raw, l => ((Service.validate E raw).map fun _ => .valid, l)

def after (E : Engine) (ops : List Operation) : Ledger := (runAll (step E) ops []).2

end Ledger

def Registry.Memory.after (E : Engine) (ops : List Operation) : Memory :=
  (runAll (stepMemory E) ops Memory.empty).2

def freshIds (ops : List Operation) : List String :=
  ops.filterMap fun
    | .save fresh _ _ => some fresh
    | _ => none

/-! ### Runs -/

section Runs
variable {σ : Type} (step : Operation → σ → Answer Outcome × σ)

theorem runAll_cons (o : Operation) (r : List Operation) (s : σ) :
    runAll step (o :: r) s =
      ((step o s).1 :: (runAll step r (step o s).2).1, (runAll step r (step o s).2).2) := rfl

theorem runAll_append (xs ys : List Operation) (s : σ) :
    runAll step (xs ++ ys) s =
      ((runAll step xs s).1 ++ (runAll step ys (runAll step xs s).2).1,
        (runAll step ys (runAll step xs s).2).2) := by
  induction xs generalizing s with
  | nil => rfl
  | cons o r ih => simp only [List.cons_append, runAll_cons, ih]

end Runs

theorem freshIds_append (xs ys : List Operation) :
    freshIds (xs ++ ys) = freshIds xs ++ freshIds ys :=
  List.filterMap_append

/-! ### Lookups by a key that no two records share -/

namespace Ledger

theorem ids_concat (l : Ledger) (e : Record) : ids (l ++ [e]) = l.ids.concat e.id := by
  simp [ids]

theorem texts_concat (l : Ledger) (e : Record) : texts (l ++ [e]) = l.texts.concat e.text := by
  simp [texts]

theorem find?_eq_some_iff {κ : Type} [DecidableEq κ] (key : Record → κ) (l : Ledger)
    (h : (l.map key).Nodup) (k : κ) (e : Record) :
    l.find? (fun d => key d = k) = some e ↔ e ∈ l ∧ key e = k := by
  constructor
  · intro hf
    exact ⟨List.mem_of_find?_eq_some hf, by simpa using List.find?_some hf⟩
  · rintro ⟨he, rfl⟩
    cases hf : l.find? fun d => key d = key e with
    | none =>
      have hne := List.find?_eq_none.1 hf e he
      simp at hne
    | some d =>
      have hd := List.mem_of_find?_eq_some hf
      have hk : key d = key e := by simpa using List.find?_some hf
      rw [List.inj_on_of_nodup_map h hd he hk]

theorem find?_eq_none_iff {κ : Type} [DecidableEq κ] (key : Record → κ) (l : Ledger) (k : κ) :
    l.find? (fun d => key d = k) = none ↔ k ∉ l.map key := by
  simp

theorem find?_concat {κ : Type} [DecidableEq κ] (key : Record → κ) (l : Ledger) (e : Record)
    (h : key e ∉ l.map key) (k : κ) :
    (l ++ [e]).find? (fun d => key d = k) =
      if k = key e then some e else l.find? fun d => key d = k := by
  rw [List.find?_append]
  by_cases hk : k = key e
  · subst hk
    rw [(find?_eq_none_iff key l _).2 h]
    simp
  · have hk' : key e ≠ k := fun he => hk he.symm
    simp [hk, hk']

theorem find?_reverse_concat {κ : Type} [DecidableEq κ] (key : Record → κ) (l : Ledger)
    (e : Record) (k : κ) :
    (l ++ [e]).reverse.find? (fun d => key d = k) =
      if k = key e then some e else l.reverse.find? fun d => key d = k := by
  rw [List.reverse_concat, List.find?_cons]
  by_cases h : k = key e
  · simp [h]
  · have h' : key e ≠ k := fun he => h he.symm
    simp [h, h']

end Ledger

/-! ### The store in memory mirrors a ledger -/

namespace Registry.Memory

/-! Where records are found by their ids as in a list, so are the holders of texts, and the store
lists the list. -/

section Lookups
variable {m : Memory} {l : Ledger} (hrecords : ∀ id, m.findId id = l.recordOf? id)
  (hids : l.ids.Nodup)
include hrecords hids

theorem findId_eq_of_mem {e : Record} (he : e ∈ l) : m.findId e.id = some e := by
  rw [hrecords]
  exact (Ledger.find?_eq_some_iff Record.id l hids e.id e).2 ⟨he, rfl⟩

theorem findText_eq {text : String} {holder : Option Record}
    (hholder : m.holders.lookup text = holder.map Record.id) (hmem : ∀ e ∈ holder, e ∈ l) :
    m.findText text = holder := by
  unfold Memory.findText
  rw [hholder]
  cases holder with
  | none => rfl
  | some e => exact findId_eq_of_mem hrecords hids (hmem e rfl)

theorem list_eq (horder : m.order = l.ids) : m.list = l := by
  unfold Memory.list
  rw [horder, Ledger.ids, List.filterMap_map]
  calc
    _ = l.filterMap some := List.filterMap_congr fun e he => findId_eq_of_mem hrecords hids he
    _ = l := List.filterMap_some

omit hids in
theorem order_insert (horder : m.order = l.ids) {e : Record} (hid : e.id ∉ l.ids) :
    (m.insert e).order = Ledger.ids (l ++ [e]) := by
  have hnew : m.findId e.id = none := by
    rw [hrecords]
    exact (Ledger.find?_eq_none_iff Record.id l e.id).2 hid
  simp [Memory.insert, hnew, horder, Ledger.ids]

end Lookups

structure Mirrors (m : Memory) (l : Ledger) : Prop where
  records : ∀ id, m.findId id = l.recordOf? id
  holders : ∀ text, m.holders.lookup text = (l.holder? text).map Record.id
  order : m.order = l.ids
  ids : l.ids.Nodup
  texts : l.texts.Nodup

namespace Mirrors
variable {m : Memory} {l : Ledger}

theorem empty : Mirrors Memory.empty [] where
  records _ := rfl
  holders _ := rfl
  order := rfl
  ids := List.nodup_nil
  texts := List.nodup_nil

theorem findId_of_mem (h : Mirrors m l) {e : Record} (he : e ∈ l) : m.findId e.id = some e :=
  findId_eq_of_mem h.records h.ids he

theorem findText (h : Mirrors m l) (text : String) : m.findText text = l.holder? text :=
  findText_eq h.records h.ids (h.holders text) fun _ he => List.mem_of_find?_eq_some he

theorem list (h : Mirrors m l) : m.list = l := list_eq h.records h.ids h.order

theorem insert (h : Mirrors m l) (e : Record) (hid : e.id ∉ l.ids) (htext : e.text ∉ l.texts) :
    Mirrors (m.insert e) (l ++ [e]) where
  records id := by
    rw [findId_insert, h.records]
    exact (Ledger.find?_concat Record.id l e hid id).symm
  holders text := by
    have hput : (m.insert e).holders.lookup text = _ := lookup_put e.text text e.id m.holders
    have hfind : (l ++ [e]).holder? text = _ := Ledger.find?_concat Record.text l e htext text
    rw [hput, hfind, h.holders]
    by_cases ht : text = e.text
    · simp [ht]
    · simp [ht, Ledger.holder?]
  order := order_insert h.records h.order hid
  ids := by
    rw [Ledger.ids_concat]
    exact h.ids.concat hid
  texts := by
    rw [Ledger.texts_concat]
    exact h.texts.concat htext

end Mirrors

end Registry.Memory

/-! ### What each operation does -/

namespace Service

theorem accept_eq (E : Engine) (raw : String) :
    accept E raw = (check E raw).map fun _ => normalForm raw := by
  rw [accept, normalize, check_eq]
  cases raw.isEmpty with
  | true => rfl
  | false =>
    simp only [bind, Except.bind, Bool.false_eq_true, ite_false]
    cases checkNormal E (normalForm raw) <;> rfl

end Service

section Calls
variable {α : Type} (m : Memory)

theorem run_findText (text : String) (next : Option Record → StorePlan α) :
    Plan.run Memory.handle (.call (.findText text) next) m =
      (next (m.findText text)).run Memory.handle m := rfl

theorem run_findId (id : String) (next : Option Record → StorePlan α) :
    Plan.run Memory.handle (.call (.findId id) next) m =
      (next (m.findId id)).run Memory.handle m := rfl

end Calls

theorem stepMemory_save (E : Engine) (fresh name raw : String) (m : Memory) :
    stepMemory E (.save fresh name raw) m =
      if isBlankText name then (refuse .invalidArgument "Name cannot be blank", m)
      else
        match check E raw with
        | .error r => (.error (.fault r.fault), m)
        | .ok () =>
          match m.findText (normalForm raw) with
          | some e => (.ok (.id e.id), m)
          | none => (.ok (.id fresh), m.insert ⟨fresh, name, normalForm raw⟩) := by
  unfold stepMemory Operation.plan
  rw [Plan.run_bind, Service.save]
  by_cases hname : isBlankText name = true
  · rw [if_pos hname, if_pos hname]
    rfl
  · rw [if_neg hname, if_neg hname, Service.accept_eq, Plan.run_bind, Plan.run_ofAnswer]
    cases check E raw with
    | error r => rfl
    | ok u =>
      simp only [ofCheck, Except.map, run_findText]
      cases m.findText (normalForm raw) <;> rfl

theorem stepMemory_get (E : Engine) (id : String) (m : Memory) :
    stepMemory E (.get id) m =
      match m.findId id with
      | some e => (.ok (.record e), m)
      | none => (refuse .notFound id, m) := by
  unfold stepMemory Operation.plan
  rw [Plan.run_bind, Service.get, run_findId]
  cases m.findId id <;> rfl

theorem stepMemory_list (E : Engine) (m : Memory) :
    stepMemory E .list m = (.ok (.records m.list), m) := rfl

theorem stepMemory_evaluate (E : Engine) (id : String) (b : Bindings) (m : Memory) :
    stepMemory E (.evaluate id b) m =
      if id.isEmpty then (refuse .invalidArgument "ID cannot be null or empty", m)
      else
        match m.findId id with
        | some e => ((evaluate E e.text b).map .truth, m)
        | none => (refuse .notFound id, m) := by
  unfold stepMemory Operation.plan
  rw [Plan.run_bind, Service.evaluate]
  by_cases hid : id.isEmpty = true
  · rw [if_pos hid, if_pos hid]
    rfl
  · rw [if_neg hid, if_neg hid, Plan.run_bind, Service.get, run_findId]
    cases m.findId id with
    | none => rfl
    | some e =>
      simp only [Plan.run, Plan.run_ofAnswer]
      cases evaluate E e.text b <;> rfl

theorem stepMemory_validate (E : Engine) (raw : String) (m : Memory) :
    stepMemory E (.validate raw) m = ((Service.validate E raw).map fun _ => .valid, m) := by
  unfold stepMemory Operation.plan
  rw [Plan.run_bind, Plan.run_ofAnswer]
  cases Service.validate E raw <;> rfl

/-! ### Runs in step -/

namespace Registry.Memory.Mirrors
variable {m : Memory} {l : Ledger}

theorem step (E : Engine) (h : Mirrors m l) (o : Operation)
    (hfresh : ∀ id ∈ freshIds [o], id ∉ l.ids) :
    (stepMemory E o m).1 = (l.step E o).1 ∧ Mirrors (stepMemory E o m).2 (l.step E o).2 := by
  cases o with
  | save fresh name raw =>
    have hid : fresh ∉ l.ids := hfresh fresh (by simp [freshIds])
    rw [stepMemory_save, Ledger.step, Ledger.save]
    by_cases hname : isBlankText name = true
    · simp only [hname, if_true]
      exact ⟨rfl, h⟩
    · simp only [hname]
      cases check E raw with
      | error r => exact ⟨rfl, h⟩
      | ok u =>
        simp only [h.findText]
        cases hf : l.holder? (normalForm raw) with
        | some e => exact ⟨rfl, h⟩
        | none =>
          exact ⟨rfl, h.insert _ hid ((Ledger.find?_eq_none_iff Record.text l _).1 hf)⟩
  | get id =>
    rw [stepMemory_get, Ledger.step, Ledger.get, h.records]
    cases l.recordOf? id <;> exact ⟨rfl, h⟩
  | list =>
    rw [stepMemory_list, h.list]
    exact ⟨rfl, h⟩
  | evaluate id b =>
    rw [stepMemory_evaluate, Ledger.step, Ledger.evaluate, Ledger.get, h.records]
    by_cases hid : id.isEmpty = true
    · simp only [hid, if_true]
      exact ⟨rfl, h⟩
    · simp only [hid]
      cases l.recordOf? id <;> exact ⟨rfl, h⟩
  | validate raw =>
    rw [stepMemory_validate]
    exact ⟨rfl, h⟩

end Registry.Memory.Mirrors

namespace Ledger

/-- A step changes nothing, or it is a save that is accepted and appends the record it makes. -/
theorem step_cases (E : Engine) (o : Operation) (l : Ledger) :
    (l.step E o).2 = l ∨
      ∃ fresh name raw, o = .save fresh name raw ∧ isBlankText name = false ∧
        check E raw = .ok () ∧ normalForm raw ∉ l.texts ∧
        l.step E o = (.ok (.id fresh), l ++ [⟨fresh, name, normalForm raw⟩]) := by
  cases o with
  | save fresh name raw =>
    unfold step save
    by_cases hname : isBlankText name = true
    · exact .inl (by simp only [hname, if_true])
    · simp only [hname]
      cases hc : check E raw with
      | error r => exact .inl rfl
      | ok u =>
        dsimp only
        cases hf : l.holder? (normalForm raw) with
        | some e => exact .inl rfl
        | none =>
          exact .inr ⟨fresh, name, raw, rfl, by simpa using hname, hc,
            (find?_eq_none_iff Record.text l _).1 hf, rfl⟩
  | get id => exact .inl rfl
  | list => exact .inl rfl
  | evaluate id b => exact .inl rfl
  | validate raw => exact .inl rfl

theorem step_ids_subset (E : Engine) (o : Operation) (l : Ledger) :
    (l.step E o).2.ids ⊆ l.ids ++ freshIds [o] := by
  obtain h | ⟨fresh, name, raw, rfl, -, -, -, h⟩ := step_cases E o l
  · rw [h]
    exact List.subset_append_left _ _
  · rw [h, ids_concat, List.concat_eq_append]
    exact List.Subset.refl _

theorem runAll_ids_subset (E : Engine) (ops : List Operation) (l : Ledger) :
    (runAll (step E) ops l).2.ids ⊆ l.ids ++ freshIds ops := by
  induction ops generalizing l with
  | nil => exact List.subset_append_left _ _
  | cons o r ih =>
    have hsplit : freshIds (o :: r) = freshIds [o] ++ freshIds r := freshIds_append [o] r
    rw [runAll_cons, hsplit, ← List.append_assoc]
    exact List.Subset.trans (ih _) (List.append_subset.2
      ⟨List.subset_append_of_subset_left _ (step_ids_subset E o l), List.subset_append_right _ _⟩)

theorem fresh_cons (E : Engine) {o : Operation} {r : List Operation} {l : Ledger}
    (hn : (freshIds (o :: r)).Nodup) (hfresh : ∀ id ∈ freshIds (o :: r), id ∉ l.ids) :
    (∀ id ∈ freshIds [o], id ∉ l.ids) ∧ (freshIds r).Nodup ∧
      ∀ id ∈ freshIds r, id ∉ (l.step E o).2.ids := by
  have hsplit : freshIds (o :: r) = freshIds [o] ++ freshIds r := freshIds_append [o] r
  rw [hsplit] at hn hfresh
  obtain ⟨-, hr, hapart⟩ := List.nodup_append'.1 hn
  refine ⟨fun id hid => hfresh id (List.mem_append_left _ hid), hr, ?_⟩
  -- the ids of the next ledger are old or brought by `o`, and `r` brings neither
  intro id hid hmem
  rcases List.mem_append.1 (step_ids_subset E o l hmem) with hold | hnew
  · exact hfresh id (List.mem_append_right _ hid) hold
  · exact hapart hnew hid

theorem runAll_grows (E : Engine) (ops : List Operation) (l : Ledger) :
    l <+: (runAll (step E) ops l).2 := by
  induction ops generalizing l with
  | nil => exact List.prefix_rfl
  | cons o r ih =>
    rw [runAll_cons]
    refine List.IsPrefix.trans ?_ (ih _)
    obtain h | ⟨fresh, name, raw, -, -, -, -, h⟩ := step_cases E o l
    · exact h.symm ▸ List.prefix_rfl
    · rw [h]
      exact List.prefix_append l _

theorem exists_mem_save {E : Engine} {name raw : String} (hname : isBlankText name = false)
    (hc : check E raw = .ok ()) (fresh : String) (l : Ledger) :
    ∃ e ∈ (l.save E fresh name raw).2, (l.save E fresh name raw).1 = .ok e.id ∧
      e.text = normalForm raw := by
  unfold save
  simp only [hname, Bool.false_eq_true, if_false, hc]
  cases hf : l.holder? (normalForm raw) with
  | some e =>
    exact ⟨e, List.mem_of_find?_eq_some hf, rfl, by simpa using List.find?_some hf⟩
  | none =>
    exact ⟨⟨fresh, name, normalForm raw⟩, List.mem_append_right _ (List.mem_singleton_self _),
      rfl, rfl⟩

/-- What holds of every record that a save can make holds of all records there ever are. -/
theorem forall_mem_runAll (E : Engine) {P : Record → Prop}
    (hP : ∀ fresh name raw, isBlankText name = false → check E raw = .ok () →
      P ⟨fresh, name, normalForm raw⟩)
    (ops : List Operation) (l : Ledger) (hl : ∀ e ∈ l, P e) :
    ∀ e ∈ (runAll (step E) ops l).2, P e := by
  induction ops generalizing l with
  | nil => exact hl
  | cons o r ih =>
    rw [runAll_cons]
    refine ih _ ?_
    obtain h | ⟨fresh, name, raw, -, hname, hc, -, h⟩ := step_cases E o l
    · rwa [h]
    · rw [h]
      intro e he
      rcases List.mem_append.1 he with hold | hnew
      · exact hl e hold
      · rw [List.mem_singleton.1 hnew]
        exact hP fresh name raw hname hc

theorem after_ids_subset (E : Engine) (ops : List Operation) : (after E ops).ids ⊆ freshIds ops :=
  runAll_ids_subset E ops []

theorem after_append (E : Engine) (xs ys : List Operation) :
    after E (xs ++ ys) = (runAll (step E) ys (after E xs)).2 := by
  rw [after, runAll_append]
  rfl

end Ledger

namespace Registry.Memory.Mirrors
variable {m : Memory} {l : Ledger}

theorem run (E : Engine) (ops : List Operation) (h : Mirrors m l) (hn : (freshIds ops).Nodup)
    (hfresh : ∀ id ∈ freshIds ops, id ∉ l.ids) :
    (runAll (stepMemory E) ops m).1 = (runAll (Ledger.step E) ops l).1 ∧
      Mirrors (runAll (stepMemory E) ops m).2 (runAll (Ledger.step E) ops l).2 := by
  induction ops generalizing m l with
  | nil => exact ⟨rfl, h⟩
  | cons o r ih =>
    obtain ⟨ho, hr, hlater⟩ := Ledger.fresh_cons E hn hfresh
    obtain ⟨hanswer, hnext⟩ := h.step E o ho
    obtain ⟨hanswers, hend⟩ := ih hnext hr hlater
    exact ⟨by rw [runAll_cons, runAll_cons, hanswer, hanswers], hend⟩

theorem after (E : Engine) (ops : List Operation) (hn : (freshIds ops).Nodup) :
    Mirrors (Memory.after E ops) (Ledger.after E ops) :=
  (empty.run E ops hn fun _ _ => by simp [Ledger.ids]).2

end Registry.Memory.Mirrors

/-- Over any run on a fresh store that never brings an id twice, the service answers as the ledger
    does and lists the ledger. No two of its records have the same id or the same text, and what it
    held after the first part of a run it still holds, in the same places, after the whole. -/
theorem memory_answers_as_ledger (E : Engine) (ops : List Operation) (h : (freshIds ops).Nodup) :
    (runAll (stepMemory E) ops Memory.empty).1 = (runAll (Ledger.step E) ops []).1 ∧
      (Memory.after E ops).list = Ledger.after E ops ∧
      (Ledger.after E ops).ids.Nodup ∧ (Ledger.after E ops).texts.Nodup ∧
      ∀ first rest, ops = first ++ rest → Ledger.after E first <+: Ledger.after E ops := by
  have hrun := Memory.Mirrors.empty.run E ops h fun _ _ => by simp [Ledger.ids]
  refine ⟨hrun.1, hrun.2.list, hrun.2.ids, hrun.2.texts, ?_⟩
  rintro first rest rfl
  rw [Ledger.after_append]
  exact Ledger.runAll_grows E rest _

/-- Saves that are new, written differently under another name, refused, and new again. -/
def mixedSaves : List Operation :=
  [.save "a" "First" "x > 5 AND y < 10", .save "b" "Second" "  x > 5 && y < 10 ",
    .save "c" "Bad" "x = 5", .get "b", .save "d" "Third" "x > 1", .list]

theorem memory_answers_as_ledger_mixedSaves :
    (runAll (stepMemory Language.engine) mixedSaves Memory.empty).1 =
        [.ok (.id "a"), .ok (.id "a"), .error (.fault Refusal.loneOperator.fault),
          refuse .notFound "b", .ok (.id "d"),
          .ok (.records [⟨"a", "First", "x > 5 && y < 10"⟩, ⟨"d", "Third", "x > 1"⟩])] ∧
      (Ledger.after Language.engine mixedSaves).ids = ["a", "d"] := by
  have h := memory_answers_as_ledger Language.engine mixedSaves (by decide)
  exact ⟨h.1.trans (by decide +kernel), by decide +kernel⟩

end ConditionRegistry
