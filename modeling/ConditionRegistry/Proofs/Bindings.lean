import ConditionRegistry.Json.Scalars
import Mathlib.Data.List.Forall2
import Mathlib.Data.List.Induction

set_option autoImplicit false

/-!
# Bindings of JSON members

Members make bindings exactly if all of them are scalars. There are no bindings only if there are no
members.
-/

namespace ConditionRegistry
open Json

theorem put_ne_nil {κ α : Type} [DecidableEq κ] (k : κ) (v : α) (es : List (κ × α)) :
    put k v es ≠ [] := by
  cases es with
  | nil => exact List.cons_ne_nil _ _
  | cons e r =>
    rw [put]
    split <;> exact List.cons_ne_nil _ _

theorem Bindings.isEmpty_insert (b : Bindings) (name : String) (v : Scalar) :
    (b.insert name v).isEmpty = false := by
  rw [isEmpty, Bindings.insert, List.isEmpty_eq_false_iff]
  exact put_ne_nil name v b.entries

theorem Bindings.isEmpty_of_find? {b : Bindings} {name : String} {v : Scalar}
    (h : b.find? name = some v) : b.isEmpty = false := by
  obtain ⟨entries⟩ := b
  cases entries with
  | nil => cases h
  | cons e r => rfl

theorem Bindings.find?_eq_none_iff {b : Bindings} {name : String} :
    b.find? name = none ↔ ∀ e ∈ b.entries, e.1 ≠ name := by
  rw [Bindings.find?, List.lookup_eq_none_iff]
  refine forall₂_congr fun e _ => ?_
  rw [bne_iff_ne, ne_comm]

theorem Bindings.isEmpty_ofList (es : List (String × Scalar)) :
    (ofList es).isEmpty = es.isEmpty := by
  induction es using List.reverseRecOn with
  | nil => rfl
  | append_singleton es e =>
    have hlast : ofList (es ++ [e]) = (ofList es).insert e.1 e.2 := by simp [ofList]
    rw [hlast, isEmpty_insert]
    simp

theorem scalarOfJson?_eq_none_iff (v : Json.Value) :
    scalarOfJson? v = none ↔
      v = .null ∨ (∃ items, v = .array items) ∨ ∃ members, v = .object members := by
  cases v <;> simp [scalarOfJson?]

theorem bindingsOfMembers_eq_ok_iff {members : List (String × Json.Value)}
    {es : List (String × Scalar)} :
    bindingsOfMembers members = .ok es ↔
      List.Forall₂ (fun m e => m.1 = e.1 ∧ scalarOfJson? m.2 = some e.2) members es := by
  induction members generalizing es with
  | nil => simp [bindingsOfMembers, List.forall₂_nil_left_iff, eq_comm]
  | cons m r ih =>
    obtain ⟨name, v⟩ := m
    rw [bindingsOfMembers]
    cases hv : scalarOfJson? v with
    | none =>
      constructor
      · intro h
        cases h
      · rintro (_ | ⟨⟨-, he⟩, -⟩)
        cases hv.symm.trans he
    | some s =>
      cases hr : bindingsOfMembers r with
      | error f =>
        constructor
        · intro h
          cases h
        · rintro (_ | ⟨-, hrest⟩)
          cases hr.symm.trans (ih.2 hrest)
      | ok rest =>
        constructor
        · intro h
          cases h
          exact .cons ⟨rfl, hv⟩ (ih.1 hr)
        · rintro (_ | @⟨_, ⟨name', s'⟩, _, rest', ⟨hname, hs⟩, hrest⟩)
          cases hname
          cases hv.symm.trans hs
          cases hr.symm.trans (ih.2 hrest)
          rfl

theorem bindingsOfMembers_eq_error {members : List (String × Json.Value)} {f : Fault}
    (h : bindingsOfMembers members = .error f) :
    ∃ before m after, members = before ++ m :: after ∧
      (∀ d ∈ before, scalarOfJson? d.2 ≠ none) ∧ scalarOfJson? m.2 = none ∧
      f = ⟨.invalidArgument, "Unsupported value for variable '" ++ m.1 ++ "'"⟩ := by
  induction members with
  | nil => cases h
  | cons m r ih =>
    obtain ⟨name, v⟩ := m
    rw [bindingsOfMembers] at h
    cases hv : scalarOfJson? v with
    | none =>
      rw [hv] at h
      cases h
      exact ⟨[], _, r, rfl, by simp, hv, rfl⟩
    | some s =>
      rw [hv] at h
      cases hr : bindingsOfMembers r with
      | error g =>
        rw [hr] at h
        cases h
        obtain ⟨before, m, after, rfl, hbefore, hm, hf⟩ := ih hr
        refine ⟨(name, v) :: before, m, after, rfl, List.forall_mem_cons.2 ⟨?_, hbefore⟩, hm, hf⟩
        rw [hv]
        exact Option.some_ne_none s
      | ok rest =>
        rw [hr] at h
        cases h

section Members
variable {members : List (String × Json.Value)}

theorem bindingsOfJson_eq_error {f : Fault} (h : bindingsOfJson members = .error f) :
    ∃ before m after, members = before ++ m :: after ∧
      (∀ d ∈ before, scalarOfJson? d.2 ≠ none) ∧ scalarOfJson? m.2 = none ∧
      f = ⟨.invalidArgument, "Unsupported value for variable '" ++ m.1 ++ "'"⟩ := by
  rw [bindingsOfJson] at h
  cases hm : bindingsOfMembers members with
  | error g =>
    rw [hm] at h
    cases h
    exact bindingsOfMembers_eq_error hm
  | ok es =>
    rw [hm] at h
    cases h

theorem of_bindingsOfJson_eq_ok {b : Bindings} (h : bindingsOfJson members = .ok b) :
    (∀ m ∈ members, scalarOfJson? m.2 ≠ none) ∧ b.isEmpty = members.isEmpty := by
  rw [bindingsOfJson] at h
  cases hm : bindingsOfMembers members with
  | error f =>
    rw [hm] at h
    cases h
  | ok es =>
    rw [hm] at h
    cases h
    have hall := bindingsOfMembers_eq_ok_iff.1 hm
    refine ⟨?_, ?_⟩
    · clear hm
      induction hall with
      | nil => simp
      | cons hfirst _ ih => exact List.forall_mem_cons.2 ⟨by simp [hfirst.2], ih⟩
    · rw [Bindings.isEmpty_ofList]
      cases hall <;> rfl

end Members

end ConditionRegistry
