import ConditionRegistry.Proofs.Interchange
import ConditionRegistry.Proofs.Keyed.Saving
import Mathlib.Data.List.Induction

set_option autoImplicit false

/-!
# What a table refers to

The entries of texts and the members are ids, and a table is sound if there is a record for each of
them and no key of a record holds anything else. An insertion writes the record first, so each
single write of it keeps a table sound, whatever is refused afterwards.
-/

namespace ConditionRegistry
open Registry

/-! ### Ids are no records -/

namespace Record

theorem ofJson?_of_isHexDigit {c : Char} (h : isHexDigit c = true) (r : List Char) :
    ofJson? (c :: r) = none := by
  have hne : ∀ d, isHexDigit d = false → (c == d) = false := by
    intro d hd
    refine beq_false_of_ne ?_
    rintro rfl
    rw [h] at hd
    cases hd
  have hspace : Json.isSpace c = false := by
    simp only [Json.isSpace, hne ' ' rfl, hne '\n' rfl, hne '\t' rfl, hne '\r' rfl, Bool.or_self]
  have hskip : Json.skipSpace (c :: r) = c :: r :=
    List.dropWhile_cons_of_neg (by rw [hspace]; exact Bool.false_ne_true)
  have hbracket : (c == '[') = false := hne '[' rfl
  have hbrace : Json.isOpenBrace c = false := hne (Char.ofNat 0x7B) rfl
  simp only [ofJson?, Json.readFields, hskip, Json.fields, hbracket, hbrace, Bool.false_eq_true,
    if_false]

theorem ofJson?_of_isUuid {id : String} (h : isUuid id = true) : ofJson? id.toList = none := by
  rw [isUuid] at h
  cases hid : id.toList with
  | nil => rfl
  | cons c r =>
    rw [hid] at h
    have hfirst : fitsPlace 'x' c = true := (Bool.and_eq_true_iff.1 h).1
    exact ofJson?_of_isHexDigit hfirst r

end Record

namespace Registry.Table

/-! ### Single writes -/

def Holds (t : Table) (e : Record) : Prop :=
  t.strings.lookup (recordKey e.id) = some (String.ofList e.json)

theorem lookup_set (t : Table) (key value other : String) :
    (t.set key value).strings.lookup other =
      if other = key then some value else t.strings.lookup other :=
  lookup_put key other value t.strings

theorem mem_insertSorted {s x : String} {l : List String} :
    x ∈ insertSorted s l ↔ x = s ∨ x ∈ l := by
  induction l with
  | nil => simp [insertSorted]
  | cons y r ih =>
    unfold insertSorted
    split
    · rename_i h
      simp [h]
    · split
      · simp
      · simp only [List.mem_cons, ih]
        exact or_left_comm

theorem mem_putMember {t : Table} {e : Record} {id : String} :
    id ∈ (t.putMember e).members allKey ↔ id = e.id ∨ id ∈ t.members allKey := by
  rw [putMember, members_add, mem_insertSorted]

section Writes
variable {t : Table} {e d : Record}

theorem holds_putRecord_self (t : Table) (e : Record) : (t.putRecord e).Holds e := by
  rw [Holds, putRecord, lookup_set, if_pos rfl]

theorem holds_putRecord_of_ne (h : d.id ≠ e.id) : (t.putRecord e).Holds d ↔ t.Holds d := by
  rw [Holds, putRecord, lookup_set, if_neg (mt recordKey_inj.1 h), Holds]

theorem lookup_textKey_putRecord (h : IsApart e.id) (t : Table) (text : String) :
    (t.putRecord e).strings.lookup (textKey text) = t.strings.lookup (textKey text) := by
  rw [putRecord, lookup_set, if_neg (h.textKey_ne text)]

theorem lookup_textKey_putText (t : Table) (e : Record) (text : String) :
    (t.putText e).strings.lookup (textKey text) =
      if text = e.text then some e.id else t.strings.lookup (textKey text) := by
  rw [putText, lookup_set]
  exact if_congr textKey_inj rfl rfl

theorem lookup_recordKey_putText {id : String} (h : IsApart id) (t : Table) (e : Record) :
    (t.putText e).strings.lookup (recordKey id) = t.strings.lookup (recordKey id) := by
  rw [putText, lookup_set, if_neg (h.textKey_ne e.text).symm]

end Writes

/-! ### Sound tables -/

/-- A UUID that is the id of a record. -/
structure Resolves (t : Table) (id : String) : Prop where
  isUuid : isUuid id = true
  holds : ∃ e, t.Holds e ∧ e.id = id

/-- What an insertion needs to have written before it writes an id. -/
theorem Holds.resolves {t : Table} {e : Record} (h : t.Holds e) (hid : isUuid e.id = true) :
    t.Resolves e.id := ⟨hid, e, h, rfl⟩

structure Sound (t : Table) : Prop where
  records : ∀ id, IsApart id → t.strings.lookup (recordKey id) ≠ none → t.Resolves id
  index : ∀ text id, t.strings.lookup (textKey text) = some id → t.Resolves id
  members : ∀ id ∈ t.members allKey, t.Resolves id

section Sound
variable {t : Table} {e : Record}

theorem Resolves.putRecord {id : String} (h : t.Resolves id) : (t.putRecord e).Resolves id := by
  obtain ⟨hid, d, hd, rfl⟩ := h
  by_cases heq : d.id = e.id
  · rw [heq] at hid ⊢
    exact (holds_putRecord_self t e).resolves hid
  · exact ((holds_putRecord_of_ne heq).2 hd).resolves hid

theorem Resolves.putText {id : String} (h : t.Resolves id) : (t.putText e).Resolves id := by
  obtain ⟨hid, d, hd, rfl⟩ := h
  refine Holds.resolves ?_ hid
  rw [Holds, lookup_recordKey_putText (isApart_of_isUuid hid)]
  exact hd

theorem Resolves.putMember {id : String} (h : t.Resolves id) : (t.putMember e).Resolves id :=
  ⟨h.isUuid, h.holds⟩

namespace Sound

theorem empty : Sound Table.empty where
  records _ _ h := absurd rfl h
  index _ _ h := by cases h
  members _ h := by cases h

theorem putRecord (h : t.Sound) (hid : isUuid e.id = true) : (t.putRecord e).Sound where
  records id hapart hsome := by
    by_cases heq : id = e.id
    · subst heq
      exact (holds_putRecord_self t e).resolves hid
    · rw [Table.putRecord, lookup_set, if_neg (mt recordKey_inj.1 heq)] at hsome
      exact (h.records id hapart hsome).putRecord
  index text id hsome := by
    rw [lookup_textKey_putRecord (isApart_of_isUuid hid)] at hsome
    exact (h.index text id hsome).putRecord
  members id hmem := (h.members id hmem).putRecord

theorem putText (h : t.Sound) (he : t.Resolves e.id) : (t.putText e).Sound where
  records id hapart hsome := by
    rw [lookup_recordKey_putText hapart] at hsome
    exact (h.records id hapart hsome).putText
  index text id hsome := by
    rw [lookup_textKey_putText] at hsome
    split at hsome
    · cases hsome
      exact he.putText
    · exact (h.index text id hsome).putText
  members id hmem := (h.members id hmem).putText

theorem putMember (h : t.Sound) (he : t.Resolves e.id) : (t.putMember e).Sound where
  records id hapart hsome := (h.records id hapart hsome).putMember
  index text id hsome := (h.index text id hsome).putMember
  members id hmem := by
    rcases mem_putMember.1 hmem with rfl | hold
    · exact he.putMember
    · exact (h.members id hold).putMember

theorem isApart_of_holds (h : t.Sound) (he : t.Holds e) : IsApart e.id := by
  intro text heq
  rw [Holds, ← textKey_eq_recordKey_iff.2 heq] at he
  have hnone := Record.ofJson?_of_isUuid (h.index text _ he).isUuid
  rw [String.toList_ofList, Record.ofJson?_json] at hnone
  cases hnone

/-- What becomes of a save, whatever is refused on the way. -/
theorem saveResult (h : t.Sound) {refuses : Command → Bool} (he : isUuid e.id = true)
    {q : Answer Outcome × Table} (hq : SaveResult refuses t e q) : q.2.Sound := by
  have hrecord : (t.putRecord e).Sound := h.putRecord he
  have hholds := (holds_putRecord_self t e).resolves he
  cases hq with
  | failed _ => exact h
  | found _ => exact h
  | unindexed _ _ _ => exact hrecord
  | unlisted _ _ _ _ => exact hrecord.putText hholds
  | inserted _ => exact (hrecord.putText hholds).putMember hholds.putText

end Sound

end Sound

end Registry.Table

/-! ### Runs in which commands are refused -/

/-- An operation with what the table refuses meanwhile. -/
structure Attempt where
  operation : Operation
  refuses : Command → Bool

namespace Attempt

def run (E : Engine) (a : Attempt) (t : Table) : Answer Outcome × Table :=
  stepTable E a.refuses a.operation t

theorem run_snd_or (E : Engine) (a : Attempt) (t : Table) :
    (a.run E t).2 = t ∨ ∃ fresh name raw, a.operation = .save fresh name raw ∧
      SaveResult a.refuses t ⟨fresh, name, normalForm raw⟩ (a.run E t) := by
  obtain ⟨o, refuses⟩ := a
  cases o with
  | save fresh name raw => exact .inr ⟨fresh, name, raw, rfl, saveResult E refuses t fresh name raw⟩
  | get id => exact .inl (stepTable_snd_of_writes E refuses t rfl)
  | list => exact .inl (stepTable_snd_of_writes E refuses t rfl)
  | evaluate id b => exact .inl (stepTable_snd_of_writes E refuses t rfl)
  | validate raw => exact .inl (stepTable_snd_of_writes E refuses t rfl)

end Attempt

def BringsUuids (run : List Attempt) : Prop :=
  ∀ id ∈ freshIds (run.map Attempt.operation), isUuid id = true

instance (run : List Attempt) : Decidable (BringsUuids run) :=
  inferInstanceAs (Decidable (∀ id ∈ freshIds (run.map Attempt.operation), isUuid id = true))

theorem bringsUuids_append {before later : List Attempt} :
    BringsUuids (before ++ later) ↔ BringsUuids before ∧ BringsUuids later := by
  simp only [BringsUuids, List.map_append, freshIds_append, List.mem_append, or_imp, forall_and]

theorem BringsUuids.save {a : Attempt} {fresh name raw : String} (h : BringsUuids [a])
    (ha : a.operation = .save fresh name raw) : isUuid fresh = true :=
  h fresh (by simp [freshIds, ha])

namespace Registry.Table

def after (E : Engine) (run : List Attempt) : Table :=
  run.foldl (fun t a => (a.run E t).2) Table.empty

theorem after_concat (E : Engine) (run : List Attempt) (a : Attempt) :
    after E (run ++ [a]) = (a.run E (after E run)).2 := by
  simp [after]

theorem Sound.attempt {t : Table} (h : t.Sound) (E : Engine) {a : Attempt}
    (ha : BringsUuids [a]) : (a.run E t).2.Sound := by
  obtain hsame | ⟨fresh, name, raw, ho, hresult⟩ := a.run_snd_or E t
  · rwa [hsame]
  · exact h.saveResult (e := ⟨fresh, name, normalForm raw⟩) (ha.save ho) hresult

/-- Whatever is refused in a run, it leaves a sound table. -/
theorem Sound.after (E : Engine) {run : List Attempt} (h : BringsUuids run) :
    (Table.after E run).Sound := by
  induction run using List.reverseRecOn with
  | nil => exact .empty
  | append_singleton run a ih =>
    obtain ⟨hrun, ha⟩ := bringsUuids_append.1 h
    rw [after_concat]
    exact (ih hrun).attempt E ha

/-! ### Lookups on sound tables -/

section Lookups
variable {t : Table} (refuses : Command → Bool)

theorem Holds.run_findId {e : Record} (h : t.Holds e) :
    (Keyed.findId e.id).run (handle refuses) t =
      if refuses (.get (recordKey e.id)) then (refuse .storage "refused", t)
      else (.ok (some e), t) := by
  rw [Keyed.findId]
  cases hget : refuses (.get (recordKey e.id)) with
  | true => exact run_call_of_refuses refuses hget _ t
  | false =>
    have hlookup : t.strings.lookup (recordKey e.id) = _ := h
    rw [run_get_of_served refuses hget, hlookup]
    simp only [Keyed.decode, String.toList_ofList, Record.ofJson?_json]
    rfl

theorem Sound.run_findText (h : t.Sound) (text : String) :
    (∃ c, refuses c = true ∧
        (Keyed.findText text).run (handle refuses) t = (refuse .storage "refused", t)) ∨
      t.strings.lookup (textKey text) = none ∧
        (Keyed.findText text).run (handle refuses) t = (.ok none, t) ∨
      ∃ e, t.strings.lookup (textKey text) = some e.id ∧ t.Holds e ∧
        (Keyed.findText text).run (handle refuses) t = (.ok (some e), t) := by
  rw [Keyed.findText]
  cases htext : refuses (.get (textKey text)) with
  | true => exact .inl ⟨_, htext, run_call_of_refuses refuses htext _ t⟩
  | false =>
    rw [run_get_of_served refuses htext]
    cases hlookup : t.strings.lookup (textKey text) with
    | none => exact .inr (.inl ⟨rfl, rfl⟩)
    | some id =>
      obtain ⟨-, e, he, rfl⟩ := h.index text id hlookup
      have hfind := he.run_findId refuses
      cases hrecord : refuses (.get (recordKey e.id)) with
      | true =>
        rw [hrecord, if_pos rfl] at hfind
        exact .inl ⟨_, hrecord, hfind⟩
      | false =>
        rw [hrecord, if_neg Bool.false_ne_true] at hfind
        exact .inr (.inr ⟨e, rfl, he, hfind⟩)

end Lookups

end Registry.Table

end ConditionRegistry
