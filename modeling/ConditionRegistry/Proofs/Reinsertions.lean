import ConditionRegistry.Proofs.Ledger
import Mathlib.Data.List.Induction

set_option autoImplicit false

/-!
# Records that come again

A store may be given an id again, with another text. The id has the record that came last, but a
text that it had before still leads to it. So a text may lead to a record with another text, and
that is so exactly if the id that took the text last has come again since.
-/

namespace ConditionRegistry
open Registry

/-- The id of the record that came last with a text has come again since, with another text. -/
def Outdated (es : List Record) (text : String) : Prop :=
  ∃ before d after, es = before ++ d :: after ∧ d.text = text ∧
    (∀ c ∈ after, c.text ≠ text) ∧ ∃ c ∈ after, c.id = d.id

namespace Registry.Memory

/-- The store after insertions from the start, whatever ids and texts the records have. -/
def afterInserts (es : List Record) : Memory := es.foldl insert empty

theorem afterInserts_concat (es : List Record) (e : Record) :
    afterInserts (es ++ [e]) = (afterInserts es).insert e :=
  List.foldl_concat insert empty e es

theorem findId_afterInserts (es : List Record) (id : String) :
    (afterInserts es).findId id = es.reverse.find? fun e => e.id = id := by
  induction es using List.reverseRecOn with
  | nil => rfl
  | append_singleton es e ih =>
    rw [afterInserts_concat, findId_insert, ih]
    exact (Ledger.find?_reverse_concat Record.id es e id).symm

theorem lookup_holders_afterInserts (es : List Record) (text : String) :
    (afterInserts es).holders.lookup text =
      (es.reverse.find? fun e => e.text = text).map Record.id := by
  induction es using List.reverseRecOn with
  | nil => rfl
  | append_singleton es e ih =>
    have hput : ((afterInserts es).insert e).holders.lookup text = _ :=
      lookup_put e.text text e.id (afterInserts es).holders
    rw [afterInserts_concat, hput, ih, Ledger.find?_reverse_concat Record.text es e text]
    split <;> rfl

section Lookups
variable {es : List Record}

theorem findId_of_findId {id : String} {e : Record} (h : (afterInserts es).findId id = some e) :
    e.id = id ∧ e ∈ es := by
  rw [findId_afterInserts] at h
  exact ⟨by simpa using List.find?_some h, List.mem_reverse.1 (List.mem_of_find?_eq_some h)⟩

theorem findId_of_findText {text : String} {e : Record}
    (h : (afterInserts es).findText text = some e) : (afterInserts es).findId e.id = some e := by
  obtain ⟨id, -, hid⟩ := Option.bind_eq_some_iff.1 h
  rw [(findId_of_findId hid).1]
  exact hid

theorem exists_text_of_findText {text : String} {e : Record}
    (h : (afterInserts es).findText text = some e) : ∃ d ∈ es, d.text = text := by
  obtain ⟨id, hholder, -⟩ := Option.bind_eq_some_iff.1 h
  rw [lookup_holders_afterInserts, Option.map_eq_some_iff] at hholder
  obtain ⟨d, hd, -⟩ := hholder
  exact ⟨d, List.mem_reverse.1 (List.mem_of_find?_eq_some hd), by simpa using List.find?_some hd⟩

theorem mem_of_mem_list {e : Record} (h : e ∈ (afterInserts es).list) : e ∈ es := by
  obtain ⟨id, -, hid⟩ := List.mem_filterMap.1 h
  exact (findId_of_findId hid).2

theorem exists_last {text : String} (h : ∃ e ∈ es, e.text = text) :
    ∃ before d after, es = before ++ d :: after ∧ d.text = text ∧ ∀ c ∈ after, c.text ≠ text := by
  have hsome : (es.reverse.find? fun e => e.text = text).isSome := by
    obtain ⟨e, he, htext⟩ := h
    rw [List.find?_isSome]
    exact ⟨e, List.mem_reverse.2 he, by simpa using htext⟩
  obtain ⟨d, hd⟩ := Option.isSome_iff_exists.1 hsome
  obtain ⟨htext, after, before, hes, hafter⟩ := List.find?_eq_some_iff_append.1 hd
  refine ⟨before.reverse, d, after.reverse, ?_, by simpa using htext, fun c hc => ?_⟩
  · rw [← List.reverse_reverse es, hes]
    simp
  · simpa using hafter c (List.mem_reverse.1 hc)

/-- A text leads to the record that came last with the id that took the text last. -/
theorem findText_of_last {before after : List Record} {d : Record}
    (hes : es = before ++ d :: after) (hafter : ∀ c ∈ after, c.text ≠ d.text) :
    (afterInserts es).findText d.text = (after.reverse.find? fun c => c.id = d.id).or (some d) := by
  have hreverse : es.reverse = after.reverse ++ d :: before.reverse := by simp [hes]
  have hholder : (es.reverse.find? fun e => e.text = d.text) = some d := by
    have hnone : (after.reverse.find? fun e => e.text = d.text) = none := by simpa using hafter
    rw [hreverse, List.find?_append, hnone]
    simp
  rw [findText, lookup_holders_afterInserts, hholder, Option.map_some, Option.bind_some,
    findId_afterInserts, hreverse, List.find?_append]
  simp

theorem text_findText_iff {text : String} (h : ∃ e ∈ es, e.text = text) :
    ∃ e, (afterInserts es).findText text = some e ∧ (e.text = text ↔ ¬ Outdated es text) := by
  by_cases hout : Outdated es text
  · obtain ⟨before, d, after, hes, rfl, hafter, c, hc, hid⟩ := id hout
    have hsome : (after.reverse.find? fun c => c.id = d.id).isSome := by
      rw [List.find?_isSome]
      exact ⟨c, List.mem_reverse.2 hc, by simpa using hid⟩
    obtain ⟨e, he⟩ := Option.isSome_iff_exists.1 hsome
    have hmem := List.mem_reverse.1 (List.mem_of_find?_eq_some he)
    refine ⟨e, by rw [findText_of_last hes hafter, he, Option.some_or], ?_⟩
    exact iff_of_false (hafter e hmem) (not_not_intro hout)
  · obtain ⟨before, d, after, hes, rfl, hafter⟩ := exists_last h
    have hnone : (after.reverse.find? fun c => c.id = d.id) = none := by
      rw [List.find?_eq_none]
      intro c hc hid
      exact hout ⟨before, d, after, hes, rfl, hafter, c, List.mem_reverse.1 hc, by simpa using hid⟩
    refine ⟨d, by rw [findText_of_last hes hafter, hnone, Option.none_or], ?_⟩
    exact iff_of_true rfl hout

end Lookups

end Registry.Memory

open Registry.Memory

/-- Whatever is inserted, a record that a text leads to is the one that its id has, and it has that
    text exactly if the text is not outdated. A text of a listed record always leads to some record.
    No text is outdated if no id comes with two texts. -/
theorem lookups_after_inserts (es : List Record) :
    (∀ text e, (afterInserts es).findText text = some e →
      (afterInserts es).findId e.id = some e ∧ (e.text = text ↔ ¬ Outdated es text)) ∧
    (∀ e ∈ (afterInserts es).list, ∃ d, (afterInserts es).findText e.text = some d ∧
      (d.text = e.text ↔ ¬ Outdated es e.text)) ∧
    ((∀ d ∈ es, ∀ e ∈ es, d.id = e.id → d.text = e.text) → ∀ text, ¬ Outdated es text) := by
  refine ⟨fun text e h => ?_, fun e he => ?_, ?_⟩
  · obtain ⟨d, hd, hiff⟩ := text_findText_iff (exists_text_of_findText h)
    rw [h] at hd
    obtain rfl := Option.some.inj hd
    exact ⟨findId_of_findText h, hiff⟩
  · exact text_findText_iff ⟨e, mem_of_mem_list he, rfl⟩
  · rintro hsame text ⟨before, d, after, rfl, rfl, hafter, c, hc, hid⟩
    exact hafter c hc (hsame c (by simp [hc]) d (by simp) hid)

/-- The second record comes again with another text. -/
def revisedRecords : List Record :=
  [⟨"1", "a", "x > 1"⟩, ⟨"2", "b", "x > 1"⟩, ⟨"2", "b", "y > 2"⟩]

/-- Taken up again, the first text is not outdated any more, and the other is. -/
theorem lookups_after_inserts_takenUp :
    (afterInserts (revisedRecords ++ [⟨"2", "c", "x > 1"⟩])).findText "x > 1" =
        some ⟨"2", "c", "x > 1"⟩ ∧
      ¬ Outdated (revisedRecords ++ [⟨"2", "c", "x > 1"⟩]) "x > 1" ∧
      Outdated (revisedRecords ++ [⟨"2", "c", "x > 1"⟩]) "y > 2" := by
  have hlookups := (lookups_after_inserts (revisedRecords ++ [⟨"2", "c", "x > 1"⟩])).1
  have hfirst : (afterInserts (revisedRecords ++ [⟨"2", "c", "x > 1"⟩])).findText "x > 1" =
      some ⟨"2", "c", "x > 1"⟩ := by decide +kernel
  have hother : (afterInserts (revisedRecords ++ [⟨"2", "c", "x > 1"⟩])).findText "y > 2" =
      some ⟨"2", "c", "x > 1"⟩ := by decide +kernel
  refine ⟨hfirst, (hlookups _ _ hfirst).2.1 rfl, ?_⟩
  by_contra hnot
  exact absurd ((hlookups _ _ hother).2.2 hnot) (by decide)

/-- The first record is listed, but its text leads to a record with another text. -/
theorem text_leads_elsewhere :
    (afterInserts revisedRecords).list = [⟨"1", "a", "x > 1"⟩, ⟨"2", "b", "y > 2"⟩] ∧
      (afterInserts revisedRecords).findText "x > 1" = some ⟨"2", "b", "y > 2"⟩ ∧
      ¬ (∀ text e, (afterInserts revisedRecords).findText text = some e → e.text = text) ∧
      ¬ ∀ e ∈ (afterInserts revisedRecords).list,
        ∃ d, (afterInserts revisedRecords).findText e.text = some d ∧ d.text = e.text := by
  have hlist : (afterInserts revisedRecords).list =
      [⟨"1", "a", "x > 1"⟩, ⟨"2", "b", "y > 2"⟩] := by decide +kernel
  have hfound : (afterInserts revisedRecords).findText "x > 1" = some ⟨"2", "b", "y > 2"⟩ := by
    decide +kernel
  have hother : "y > 2" ≠ "x > 1" := by decide
  refine ⟨hlist, hfound, fun h => hother (h _ _ hfound), fun h => ?_⟩
  obtain ⟨d, hd, htext⟩ := h ⟨"1", "a", "x > 1"⟩ (by rw [hlist]; exact List.mem_cons_self)
  rw [hfound] at hd
  obtain rfl := Option.some.inj hd
  exact hother htext

end ConditionRegistry
