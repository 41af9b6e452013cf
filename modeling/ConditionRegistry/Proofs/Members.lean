import ConditionRegistry.Json.Scalars
import Mathlib.Data.List.Nodup
import Mathlib.Data.List.Induction
import Mathlib.Data.String.Basic

set_option autoImplicit false

/-!
# Members of an object

Members with different names are the same in the order of their names as in the order in which they
are written. What is read of each member can be taken along with the text that it is read from.
-/

namespace ConditionRegistry.Json

/-! ### In the order of names -/

section Order
variable {α : Type}

def Ascending (ms : List (String × α)) : Prop := ms.Pairwise fun m d => m.1 < d.1

theorem Ascending.nodup {ms : List (String × α)} (h : Ascending ms) :
    (ms.map Prod.fst).Nodup :=
  List.pairwise_map.2 (h.imp fun hlt => hlt.ne)

theorem insertMember_perm {name : String} {ms : List (String × α)} (h : name ∉ ms.map Prod.fst)
    (v : α) : (insertMember name v ms).Perm ((name, v) :: ms) := by
  induction ms with
  | nil => exact List.Perm.refl _
  | cons m r ih =>
    rw [List.map_cons, List.mem_cons, not_or] at h
    rw [insertMember, if_neg h.1]
    split
    · exact List.Perm.refl _
    · exact ((ih h.2).cons m).trans (List.Perm.swap _ m r)

theorem mem_insertMember {name : String} {v : α} {ms : List (String × α)} {d : String × α}
    (h : d ∈ insertMember name v ms) : d = (name, v) ∨ d ∈ ms := by
  induction ms with
  | nil => exact .inl (List.mem_singleton.1 h)
  | cons m r ih =>
    rw [insertMember] at h
    split_ifs at h
    · rcases List.mem_cons.1 h with rfl | h
      · exact .inl rfl
      · exact .inr (List.mem_cons_of_mem m h)
    · exact List.mem_cons.1 h
    · rcases List.mem_cons.1 h with rfl | h
      · exact .inr List.mem_cons_self
      · exact (ih h).imp_right (List.mem_cons_of_mem m)

theorem Ascending.insertMember {ms : List (String × α)} (h : Ascending ms) (name : String)
    (v : α) : Ascending (insertMember name v ms) := by
  induction ms with
  | nil => exact List.pairwise_singleton _ _
  | cons m r ih =>
    obtain ⟨hfirst, hrest⟩ := List.pairwise_cons.1 h
    rw [Json.insertMember]
    split_ifs with heq hlt
    · subst heq
      exact List.pairwise_cons.2 ⟨hfirst, hrest⟩
    · refine List.pairwise_cons.2 ⟨fun d hd => ?_, h⟩
      rcases List.mem_cons.1 hd with rfl | hd
      · exact hlt
      · exact lt_trans hlt (hfirst d hd)
    · refine List.pairwise_cons.2 ⟨fun d hd => ?_, ih hrest⟩
      rcases mem_insertMember hd with rfl | hd
      · exact lt_of_le_of_ne (not_lt.1 hlt) (Ne.symm heq)
      · exact hfirst d hd

theorem sortMembers_concat (ms : List (String × α)) (m : String × α) :
    sortMembers (ms ++ [m]) = insertMember m.1 m.2 (sortMembers ms) :=
  List.foldl_concat _ [] m ms

theorem ascending_sortMembers (ms : List (String × α)) : Ascending (sortMembers ms) := by
  induction ms using List.reverseRecOn with
  | nil => exact List.Pairwise.nil
  | append_singleton ms m ih =>
    rw [sortMembers_concat]
    exact ih.insertMember m.1 m.2

theorem sortMembers_perm {ms : List (String × α)} (h : (ms.map Prod.fst).Nodup) :
    (sortMembers ms).Perm ms := by
  induction ms using List.reverseRecOn with
  | nil => exact List.Perm.refl []
  | append_singleton ms m ih =>
    rw [List.map_append, List.map_singleton, ← List.concat_eq_append, List.nodup_concat] at h
    have hperm := ih h.2
    have hnew : m.1 ∉ (sortMembers ms).map Prod.fst :=
      mt (hperm.map Prod.fst).mem_iff.1 h.1
    rw [sortMembers_concat]
    exact (insertMember_perm hnew m.2).trans
      ((hperm.cons m).trans (List.perm_append_singleton m ms).symm)

end Order

/-! ### As they are read -/

section Scans
variable {κ α β : Type}

/-- The one scan takes what the other does, and forgets a part of it. -/
def Forgets (f : β → α) (fine : Scan β) (coarse : Scan α) : Prop :=
  ∀ s, coarse s = (fine s).map fun p => (f p.1, p.2)

variable {f : β → α} {fine : Scan β} {coarse : Scan α} (h : Forgets f fine coarse) (key : Scan κ)
include h

theorem forgets_member :
    Forgets (fun m : κ × β => (m.1, f m.2)) (member key fine) (member key coarse) := by
  intro s
  unfold member
  cases memberName key s with
  | none => rfl
  | some k =>
    obtain ⟨k, r⟩ := k
    dsimp only
    cases colon r with
    | none => rfl
    | some u =>
      obtain ⟨_, r'⟩ := u
      dsimp only
      rw [h, Option.map_map, Option.map_map]
      rfl

theorem forgets_membersAfter (fuel : Nat) :
    Forgets (List.map fun m : κ × β => (m.1, f m.2)) (membersAfter key fine fuel)
      (membersAfter key coarse fuel) := by
  induction fuel with
  | zero => exact fun _ => rfl
  | succ fuel ih =>
    intro s
    rw [membersAfter, membersAfter, forgets_member h key]
    cases member key fine (skipSpace s) with
    | none => rfl
    | some p =>
      obtain ⟨m, r⟩ := p
      simp only [Option.map_some]
      split
      · rw [ih, Option.map_map, Option.map_map]
        rfl
      · split <;> rfl
      · rfl

theorem forgets_members :
    Forgets (List.map fun m : κ × β => (m.1, f m.2)) (members key fine) (members key coarse) := by
  intro s
  unfold members
  split
  · split
    · rfl
    · exact forgets_membersAfter h key _ _
  · rfl

end Scans

section Items
variable {κ α : Type} {key : Scan κ} {item : Scan α}

theorem exists_item_of_mem_membersAfter {fuel : Nat} {s r : List Char} {ms : List (κ × α)}
    (h : membersAfter key item fuel s = some (ms, r)) {m : κ × α} (hm : m ∈ ms) :
    ∃ u v, item u = some (m.2, v) := by
  induction fuel generalizing s ms with
  | zero => cases h
  | succ fuel ih =>
    rw [membersAfter] at h
    cases hfirst : member key item (skipSpace s) with
    | none =>
      rw [hfirst] at h
      cases h
    | some p =>
      obtain ⟨d, r₀⟩ := p
      have hd : ∃ u v, item u = some (d.2, v) := by
        unfold member at hfirst
        split at hfirst
        · cases hfirst
        · split at hfirst
          · cases hfirst
          · obtain ⟨q, hq, heq⟩ := Option.map_eq_some_iff.1 hfirst
            cases heq
            exact ⟨_, _, hq⟩
      rw [hfirst] at h
      dsimp only at h
      split at h
      · obtain ⟨q, hq, heq⟩ := Option.map_eq_some_iff.1 h
        cases heq
        rcases List.mem_cons.1 hm with rfl | hm
        · exact hd
        · exact ih hq hm
      · split at h
        · cases h
          rwa [List.mem_singleton.1 hm]
        · cases h
      · cases h

theorem exists_item_of_mem_members {s r : List Char} {ms : List (κ × α)}
    (h : members key item s = some (ms, r)) {m : κ × α} (hm : m ∈ ms) :
    ∃ u v, item u = some (m.2, v) := by
  unfold members at h
  split at h
  · split at h
    · cases h
      cases hm
    · exact exists_item_of_mem_membersAfter h hm
  · cases h

end Items

/-! ### Objects -/

def object? {α : Type} (item : Scan α) (s : List Char) : Option (List (String × α)) :=
  match skipSpace s with
  | c :: r =>
    if isOpenBrace c then
      match members content item r with
      | some (ms, rest) =>
        if (skipSpace rest).isEmpty then some (ms.map fun m => (String.ofList m.1, m.2)) else none
      | none => none
    else none
  | [] => none

theorem object?_eq_some_iff {α : Type} {item : Scan α} {s : List Char} {ms : List (String × α)} :
    object? item s = some ms ↔
      ∃ c r ds rest, skipSpace s = c :: r ∧ isOpenBrace c = true ∧
        members content item r = some (ds, rest) ∧ (skipSpace rest).isEmpty = true ∧
        ms = ds.map fun m => (String.ofList m.1, m.2) := by
  constructor
  · intro h
    unfold object? at h
    split at h
    · rename_i c r hs
      split at h
      · rename_i hbrace
        split at h
        · rename_i ds rest hds
          split at h
          · rename_i hend
            cases h
            exact ⟨c, r, ds, rest, hs, hbrace, hds, hend, rfl⟩
          · cases h
        · cases h
      · cases h
    · cases h
  · rintro ⟨c, r, ds, rest, hs, hbrace, hds, hend, rfl⟩
    simp only [object?, hs, hbrace, hds, hend, if_true]

theorem object?_of_forgets {α β : Type} {f : β → α} {fine : Scan β} {coarse : Scan α}
    (h : Forgets f fine coarse) (s : List Char) :
    object? coarse s = (object? fine s).map (List.map fun m => (m.1, f m.2)) := by
  unfold object?
  split
  · split
    · rw [forgets_members h content]
      cases members content fine _ with
      | none => rfl
      | some p =>
        simp only [Option.map_some]
        split
        · simp
        · rfl
    · rfl
  · rfl

theorem exists_item_of_mem_object? {α : Type} {item : Scan α} {s : List Char}
    {ms : List (String × α)} (h : object? item s = some ms) {m : String × α} (hm : m ∈ ms) :
    ∃ u v, item u = some (m.2, v) := by
  obtain ⟨_, _, ds, _, -, -, hds, -, rfl⟩ := object?_eq_some_iff.1 h
  obtain ⟨d, hd, rfl⟩ := List.mem_map.1 hm
  exact exists_item_of_mem_members hds hd

theorem readBindings?_eq (s : List Char) :
    readBindings? s = (object? (value (maxDepth - 1)) s).bind firstBindings? := by
  unfold readBindings? object?
  cases skipSpace s with
  | nil => rfl
  | cons c r =>
    dsimp only
    cases isOpenBrace c with
    | false => rfl
    | true =>
      cases members content (value (maxDepth - 1)) r with
      | none => rfl
      | some p =>
        obtain ⟨ms, rest⟩ := p
        cases hend : (skipSpace rest).isEmpty <;> simp [hend]

theorem value_eq_object_iff {depth : Nat} {c : Char} {r rest : List Char}
    {sorted : List (String × Value)} :
    value (depth + 1) (c :: r) = some (.object sorted, rest) ↔
      isOpenBrace c = true ∧ ∃ ms, members content (value depth) r = some (ms, rest) ∧
        sorted = sortMembers (ms.map fun m => (String.ofList m.1, m.2)) := by
  constructor
  · intro h
    unfold value at h
    dsimp only at h
    split at h
    · simp [constant] at h
    · simp [constant] at h
    · simp [constant] at h
    · simp at h
    · simp at h
    · split at h
      · rename_i hbrace
        obtain ⟨p, hp, heq⟩ := Option.map_eq_some_iff.1 h
        cases heq
        exact ⟨hbrace, p.1, hp, rfl⟩
      · simp at h
  · rintro ⟨hbrace, ms, hms, rfl⟩
    obtain rfl : c = Char.ofNat 0x7B := eq_of_beq hbrace
    have hvalue : value (depth + 1) (Char.ofNat 0x7B :: r) =
        (members (κ := List Char) content (value depth) r).map fun p =>
          (.object (sortMembers (p.1.map fun m => (String.ofList m.1, m.2))), p.2) := rfl
    rw [hvalue, hms]
    rfl

theorem read?_eq_object_iff {s : List Char} {sorted : List (String × Value)} :
    read? s = some (.object sorted) ↔
      ∃ ms, object? (value (maxDepth - 1)) s = some ms ∧ sorted = sortMembers ms := by
  constructor
  · intro h
    unfold read? at h
    split at h
    · rename_i v rest hvalue
      split at h
      · rename_i hend
        cases h
        cases hs : skipSpace s with
        | nil =>
          rw [hs] at hvalue
          cases hvalue
        | cons c r =>
          rw [hs] at hvalue
          obtain ⟨hbrace, ds, hds, rfl⟩ := value_eq_object_iff.1 hvalue
          exact ⟨_, object?_eq_some_iff.2 ⟨c, r, ds, rest, hs, hbrace, hds, hend, rfl⟩, rfl⟩
      · cases h
    · cases h
  · rintro ⟨ms, hms, rfl⟩
    obtain ⟨c, r, ds, rest, hs, hbrace, hds, hend, rfl⟩ := object?_eq_some_iff.1 hms
    have hvalue : value maxDepth (c :: r) = _ := value_eq_object_iff.2 ⟨hbrace, ds, hds, rfl⟩
    simp only [read?, hs, hvalue, hend, if_true]

end ConditionRegistry.Json
