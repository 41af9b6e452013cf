import ConditionRegistry.Proofs.Reinsertions
import Mathlib.Data.List.Basic

set_option autoImplicit false

/-!
# Listings of records that come again

An id keeps its place in the listing when it comes again, and its former record is gone. So the
listing has the ids in the order in which they came first, each of them once, with the record that
came last.
-/

namespace ConditionRegistry
open Registry

/-- No later record has the id of this one. -/
def IsLatest (es : List Record) (e : Record) : Prop :=
  ∃ before after, es = before ++ e :: after ∧ ∀ d ∈ after, d.id ≠ e.id

/-- The ids of the records, in the order in which they came first. -/
structure ByFirst (es : List Record) (ids : List String) : Prop where
  mem_iff : ∀ id, id ∈ ids ↔ id ∈ es.map Record.id
  ascending : ids.Pairwise fun id other =>
    (es.map Record.id).idxOf id < (es.map Record.id).idxOf other

namespace ByFirst
variable {es : List Record} {ids : List String}

theorem nodup (h : ByFirst es ids) : ids.Nodup :=
  h.ascending.imp fun {id other} hlt => by
    rintro rfl
    exact Nat.lt_irrefl _ hlt

theorem ascending_concat (h : ByFirst es ids) (e : Record) :
    ids.Pairwise fun id other =>
      ((es ++ [e]).map Record.id).idxOf id < ((es ++ [e]).map Record.id).idxOf other := by
  refine h.ascending.imp_of_mem fun {id other} hid hother hlt => ?_
  rw [List.map_append, List.idxOf_append_of_mem ((h.mem_iff id).1 hid),
    List.idxOf_append_of_mem ((h.mem_iff other).1 hother)]
  exact hlt

theorem known (h : ByFirst es ids) {e : Record} (he : e.id ∈ ids) : ByFirst (es ++ [e]) ids where
  mem_iff id := by
    rw [List.map_append, List.mem_append, h.mem_iff]
    refine (or_iff_left_of_imp fun hid => ?_).symm
    rw [List.eq_of_mem_singleton hid]
    exact (h.mem_iff e.id).1 he
  ascending := h.ascending_concat e

theorem new (h : ByFirst es ids) {e : Record} (he : e.id ∉ ids) :
    ByFirst (es ++ [e]) (ids ++ [e.id]) where
  mem_iff id := by
    rw [List.map_append, List.mem_append, List.mem_append, h.mem_iff]
    rfl
  ascending := by
    refine List.pairwise_append.2 ⟨h.ascending_concat e, List.pairwise_singleton _ _, ?_⟩
    intro id hid other hother
    obtain rfl := List.eq_of_mem_singleton hother
    have hbefore := (h.mem_iff id).1 hid
    have hnew : e.id ∉ es.map Record.id := mt (h.mem_iff e.id).2 he
    rw [List.map_append, List.idxOf_append_of_mem hbefore, List.idxOf_append_of_notMem hnew]
    exact Nat.lt_add_right _ (List.idxOf_lt_length_of_mem hbefore)

end ByFirst

namespace Registry.Memory

theorem findId_eq_some_iff (es : List Record) (id : String) (e : Record) :
    (afterInserts es).findId id = some e ↔ IsLatest es e ∧ e.id = id := by
  rw [findId_afterInserts, List.find?_eq_some_iff_append]
  constructor
  · rintro ⟨hid, after, before, hes, hafter⟩
    obtain rfl : e.id = id := by simpa using hid
    refine ⟨⟨before.reverse, after.reverse, ?_, fun d hd => ?_⟩, rfl⟩
    · rw [← List.reverse_reverse es, hes]
      simp
    · simpa using hafter d (List.mem_reverse.1 hd)
  · rintro ⟨⟨before, after, rfl, hafter⟩, rfl⟩
    refine ⟨by simp, after.reverse, before.reverse, by simp, fun d hd => ?_⟩
    simpa using hafter d (List.mem_reverse.1 hd)

theorem findId_eq_none_iff (es : List Record) (id : String) :
    (afterInserts es).findId id = none ↔ id ∉ es.map Record.id := by
  rw [findId_afterInserts, Ledger.find?_eq_none_iff Record.id, List.map_reverse, List.mem_reverse]

theorem byFirst_order (es : List Record) : ByFirst es (afterInserts es).order := by
  induction es using List.reverseRecOn with
  | nil => exact ⟨fun _ => Iff.rfl, List.Pairwise.nil⟩
  | append_singleton es e ih =>
    rw [afterInserts_concat]
    have hnone : (afterInserts es).findId e.id = none ↔ e.id ∉ (afterInserts es).order := by
      rw [findId_eq_none_iff, ih.mem_iff]
    cases hfind : (afterInserts es).findId e.id with
    | none =>
      have horder : ((afterInserts es).insert e).order = (afterInserts es).order ++ [e.id] := by
        simp [insert, hfind]
      rw [horder]
      exact ih.new (hnone.1 hfind)
    | some d =>
      have horder : ((afterInserts es).insert e).order = (afterInserts es).order := by
        simp [insert, hfind]
      rw [horder]
      refine ih.known (not_not.1 fun hnot => ?_)
      cases hfind.symm.trans (hnone.2 hnot)

theorem map_id_findId_of_mem_order {es : List Record} {id : String}
    (h : id ∈ (afterInserts es).order) : ((afterInserts es).findId id).map Record.id = some id := by
  have hmem := ((byFirst_order es).mem_iff id).1 h
  cases hfind : (afterInserts es).findId id with
  | none => exact absurd hmem ((findId_eq_none_iff es id).1 hfind)
  | some e => rw [Option.map_some, ((findId_eq_some_iff es id e).1 hfind).2]

theorem ids_list_afterInserts (es : List Record) :
    (afterInserts es).list.map Record.id = (afterInserts es).order := by
  rw [list, List.map_filterMap]
  calc
    _ = (afterInserts es).order.filterMap some :=
      List.filterMap_congr fun _ hid => map_id_findId_of_mem_order hid
    _ = _ := List.filterMap_some

theorem mem_list_iff (es : List Record) (e : Record) :
    e ∈ (afterInserts es).list ↔ IsLatest es e := by
  rw [list, List.mem_filterMap]
  constructor
  · rintro ⟨id, -, hfind⟩
    exact ((findId_eq_some_iff es id e).1 hfind).1
  · intro h
    obtain ⟨before, after, hes, -⟩ := id h
    have hmem : e.id ∈ es.map Record.id := List.mem_map_of_mem (by simp [hes])
    exact ⟨e.id, ((byFirst_order es).mem_iff e.id).2 hmem,
      (findId_eq_some_iff es e.id e).2 ⟨h, rfl⟩⟩

end Registry.Memory

open Registry.Memory

/-- Whatever is inserted, the listing has each id that came exactly once, in the order in which they
    came first, and of each the record that came last. An id leads to this record as well, and to
    none if it did not come. -/
theorem listing_after_inserts (es : List Record) :
    ByFirst es ((afterInserts es).list.map Record.id) ∧
    ((afterInserts es).list.map Record.id).Nodup ∧
    (∀ e, e ∈ (afterInserts es).list ↔ IsLatest es e) ∧
    (∀ id e, (afterInserts es).findId id = some e ↔ IsLatest es e ∧ e.id = id) ∧
    (∀ id, (afterInserts es).findId id = none ↔ id ∉ es.map Record.id) := by
  have horder := byFirst_order es
  rw [← ids_list_afterInserts es] at horder
  exact ⟨horder, horder.nodup, mem_list_iff es, findId_eq_some_iff es, findId_eq_none_iff es⟩

/-- The second record comes last, in the place of its id. -/
example : (afterInserts [⟨"2", "a", "x > 1"⟩, ⟨"1", "b", "x > 1"⟩, ⟨"2", "c", "y > 2"⟩]).list =
    [⟨"2", "c", "y > 2"⟩, ⟨"1", "b", "x > 1"⟩] := by
  decide +kernel

end ConditionRegistry
