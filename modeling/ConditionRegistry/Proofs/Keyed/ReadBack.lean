import ConditionRegistry.Proofs.Keyed.References

set_option autoImplicit false

/-!
# Records that are read back from a table

A record is found under its id as it was inserted, whatever characters it is made of and whatever
the table held before. There is one exception: an id can be such that the key of the record is also
the key of its own text. Then the entry of the text, which is written later, has replaced the
record.
-/

namespace ConditionRegistry
open Registry

namespace Record

theorem ofJson?_of_textId (text : String) : ofJson? ("text:" ++ text).toList = none := by
  rw [String.toList_append]
  rfl

end Record

namespace Registry.Table
variable {refuses : Command → Bool} {t u : Table} {e d : Record}

theorem eq_of_run_insert (h : (Keyed.insert e).run (handle refuses) t = (.ok d, u)) :
    d = e ∧ u = t.insert e := by
  rw [Keyed.run_insert] at h
  split_ifs at h
  · cases h
  · cases h
  · cases h
  · cases h
    exact ⟨rfl, rfl⟩

theorem holds_insert (h : recordKey e.id ≠ textKey e.text) (t : Table) : (t.insert e).Holds e := by
  rw [Holds, lookup_insert, if_neg h, if_pos rfl]

theorem run_findId_of_sameKey (hsame : recordKey e.id = textKey e.text)
    (hserve : refuses (.get (recordKey e.id)) = false) :
    (Keyed.findId e.id).run (handle refuses) (t.insert e) =
      (refuse .json "not a record", t.insert e) := by
  have hlookup : (t.insert e).strings.lookup (recordKey e.id) = some e.id := by
    rw [lookup_insert, if_pos hsame]
  have hnone : Record.ofJson? e.id.toList = none := by
    rw [textKey_eq_recordKey_iff.1 hsame.symm]
    exact Record.ofJson?_of_textId e.text
  rw [Keyed.findId, run_get_of_served refuses hserve, hlookup]
  simp only [Keyed.decode, hnone]
  rfl

end Registry.Table

open Registry.Table

/-- The text of a record stands for this record, and an insertion that succeeds on any table is
    followed by a lookup that finds exactly the record. The lookup finds anything else only if the
    key of the record is the key of its text. -/
theorem record_read_back :
    (∀ e : Record, Record.ofJson? e.json = some e) ∧
    ∀ (refuses : Command → Bool) (t u : Table) (e d : Record),
      (Keyed.insert e).run (Table.handle refuses) t = (.ok d, u) →
      d = e ∧ ∀ later : Command → Bool, later (.get (recordKey e.id)) = false →
        ((Keyed.findId e.id).run (Table.handle later) u = (.ok (some e), u) ↔
          recordKey e.id ≠ textKey e.text) := by
  refine ⟨Record.ofJson?_json, fun refuses t u e d hinsert => ?_⟩
  obtain ⟨rfl, rfl⟩ := eq_of_run_insert hinsert
  refine ⟨rfl, fun later hserve => ?_⟩
  constructor
  · intro hfound hsame
    rw [run_findId_of_sameKey hsame hserve] at hfound
    cases hfound
  · intro hkey
    rw [(holds_insert hkey t).run_findId later, hserve, if_neg Bool.false_ne_true]

/-- A record with quotes, a control character and a letter beyond the first plane, on a table that
    holds its keys already and takes no more lookups of texts. -/
def unusualRecord : Record :=
  ⟨"text: x", "\"a\\\n" ++ String.ofList [Char.ofNat 1, Char.ofNat 0x1F600], "x == 'é'"⟩

def usedTable : Table :=
  .ofContent [("expression:text: x", "x"), ("expression:text:x == 'é'", "7")]
    [("expressions:all", ["7"])]

def refusesTexts : Command → Bool
  | .get key => key = textKey unusualRecord.text
  | .set _ _ | .add _ _ | .members _ => false

theorem record_read_back_unusual :
    (Keyed.insert unusualRecord).run (Table.handle refusesTexts) usedTable =
        (.ok unusualRecord, usedTable.insert unusualRecord) ∧
      (Keyed.findId unusualRecord.id).run (Table.handle refusesTexts)
          (usedTable.insert unusualRecord) =
        (.ok (some unusualRecord), usedTable.insert unusualRecord) := by
  have hinsert : (Keyed.insert unusualRecord).run (Table.handle refusesTexts) usedTable =
      (.ok unusualRecord, usedTable.insert unusualRecord) := rfl
  refine ⟨hinsert, ?_⟩
  have hfound := (record_read_back.2 refusesTexts usedTable _ unusualRecord _ hinsert).2
    refusesTexts (by decide)
  exact hfound.2 (by decide)

end ConditionRegistry
