import ConditionRegistry.Record
import Mathlib.Data.List.Nodup

set_option autoImplicit false

/-!
# The text of a record

What is written between quotes is read back as it was, character by character, whatever follows the
closing quote. So fields that are written with different names are all found again, and a record is
read back from its text.
-/

namespace ConditionRegistry.Json

/-! ### Strings -/

theorem contentAfter_eq (n : Nat) (s : List Char) : contentAfter n s = content (s.drop n) := by
  induction s generalizing n with
  | nil => cases n <;> rfl
  | cons c r ih =>
    cases n with
    | zero => rfl
    | succ n => exact ih n

theorem hexValue?_hexDigit : ∀ n < 16, hexValue? (hexDigit n) = some n := by
  decide

theorem unit?_escaped {n : Nat} (h : n < 0x20) (r : List Char) :
    unit? ('0' :: '0' :: hexDigit (n / 16) :: hexDigit (n % 16) :: r) = some n := by
  have hhigh := hexValue?_hexDigit (n / 16) (by omega)
  have hlow := hexValue?_hexDigit (n % 16) (by omega)
  have hzero : hexValue? '0' = some 0 := rfl
  simp only [unit?, hzero, hhigh, hlow, bind, Option.bind]
  congr 1
  omega

theorem content_escape {c : Char} {n : Nat} {s : List Char} (h : escape? s = some (c, n)) :
    content ('\\' :: s) = (content (s.drop n)).map fun p => (c :: p.1, p.2) := by
  have hquote : ('\\' == '"') = false := rfl
  simp only [content, contentAfter, hquote, Bool.false_eq_true, if_false, beq_self_eq_true, if_true,
    h, contentAfter_eq n]

theorem content_escaped (c : Char) (r : List Char) :
    content (escaped c ++ r) = (content r).map fun p => (c :: p.1, p.2) := by
  unfold escaped
  by_cases hquote : c = '"'
  · subst hquote
    exact content_escape (s := '"' :: r) rfl
  by_cases hslash : c = '\\'
  · subst hslash
    exact content_escape (s := '\\' :: r) rfl
  by_cases hline : c = '\n'
  · subst hline
    exact content_escape (s := 'n' :: r) rfl
  by_cases hreturn : c = '\r'
  · subst hreturn
    exact content_escape (s := 'r' :: r) rfl
  by_cases htab : c = '\t'
  · subst htab
    exact content_escape (s := 't' :: r) rfl
  simp only [beq_false_of_ne hquote, beq_false_of_ne hslash, beq_false_of_ne hline,
    beq_false_of_ne hreturn, beq_false_of_ne htab, Bool.false_eq_true, if_false]
  by_cases hback : c.toNat = 8
  · obtain rfl : c = Char.ofNat 8 := by rw [← hback, Char.ofNat_toNat]
    exact content_escape (s := 'b' :: r) rfl
  by_cases hfeed : c.toNat = 12
  · obtain rfl : c = Char.ofNat 12 := by rw [← hfeed, Char.ofNat_toNat]
    exact content_escape (s := 'f' :: r) rfl
  simp only [beq_false_of_ne hback, beq_false_of_ne hfeed, Bool.false_eq_true, if_false]
  by_cases hcontrol : c.toNat < 0x20
  · rw [if_pos hcontrol]
    refine content_escape (s := 'u' :: '0' :: '0' :: hexDigit (c.toNat / 16) ::
      hexDigit (c.toNat % 16) :: r) (n := 5) ?_
    have hlow : isLowUnit c.toNat = false := by simp [isLowUnit]; omega
    have hhigh : isHighUnit c.toNat = false := by simp [isHighUnit]; omega
    simp only [escape?, unit?_escaped hcontrol, hlow, hhigh, Bool.false_eq_true, if_false,
      Char.ofNat_toNat]
  · rw [if_neg hcontrol]
    simp only [content, List.cons_append, List.nil_append, contentAfter, beq_false_of_ne hquote,
      beq_false_of_ne hslash, hcontrol, Bool.false_eq_true, if_false]

theorem content_flatMap_escaped (s r : List Char) :
    content (s.flatMap escaped ++ '"' :: r) = some (s, r) := by
  induction s with
  | nil => rfl
  | cons c s ih =>
    rw [List.flatMap_cons, List.append_assoc, content_escaped, ih]
    rfl

theorem quoted_append (s : String) (r : List Char) :
    quoted s ++ r = '"' :: (s.toList.flatMap escaped ++ '"' :: r) := by
  simp [quoted]

theorem skipSpace_quoted (s : String) (r : List Char) :
    skipSpace (quoted s ++ r) = quoted s ++ r := by
  rw [quoted_append]
  rfl

theorem stringField_quoted (s : String) (r : List Char) :
    stringField (quoted s ++ r) = .ok (s, r) := by
  rw [quoted_append]
  simp only [stringField, content_flatMap_escaped, Option.map_some, orSyntax, String.ofList_toList]

theorem quoted_injective : Function.Injective quoted := by
  intro s t h
  have hread := stringField_quoted s []
  rw [h, stringField_quoted t []] at hread
  cases hread
  rfl

/-! ### Values -/

/-- A text is read as a value and nothing of what follows is. -/
structure Reads {α : Type} (read : Reader α) (text : List Char) (a : α) : Prop where
  skipSpace : ∀ r, skipSpace (text ++ r) = text ++ r
  read : ∀ r, read (text ++ r) = .ok (a, r)

theorem Reads.string (s : String) : Reads stringField (quoted s) s :=
  ⟨skipSpace_quoted s, stringField_quoted s⟩

theorem Reads.optional (s : String) : Reads (optional stringField) (quoted s) (some s) where
  skipSpace := skipSpace_quoted s
  read r := by
    have hread : Json.optional stringField (quoted s ++ r) =
        (stringField (quoted s ++ r)).map fun p => (some p.1, p.2) := by
      rw [quoted_append]
      rfl
    rw [hread, stringField_quoted]
    rfl

/-! ### Fields -/

def fieldText {β : Type} (write : β → List Char) (m : String × β) : List Char :=
  quoted m.1 ++ ':' :: write m.2

theorem skipSpace_fieldText {β : Type} (write : β → List Char) (m : String × β) (r : List Char) :
    skipSpace (fieldText write m ++ r) = fieldText write m ++ r := by
  rw [fieldText, List.append_assoc, skipSpace_quoted]

theorem length_le_length_commas {β : Type} (write : β → List Char) (ms : List (String × β)) :
    ms.length ≤ (commas (ms.map (fieldText write))).length := by
  induction ms with
  | nil => exact Nat.le_refl 0
  | cons m ms ih =>
    cases ms with
    | nil => simp [commas, fieldText, quoted]
    | cons m' ms =>
      simp only [List.map_cons, commas, List.length_append, List.length_cons] at ih ⊢
      omega

section Fields
variable {α β : Type} {read : Reader α} {write : β → List Char} {value : β → α}
  (h : ∀ b, Reads read (write b) (value b)) {names : List String}
include h

theorem fieldMember_fieldText {found : Found α} {m : String × β} (hname : m.1 ∈ names)
    (hnew : found.lookup m.1 = none) (r : List Char) :
    fieldMember names read found (fieldText write m ++ r) =
      .ok ((m.1, value m.2) :: found, r) := by
  have hkey : memberName content (fieldText write m ++ r) =
      some (m.1.toList, ':' :: (write m.2 ++ r)) := by
    rw [fieldText, List.append_assoc, quoted_append, List.cons_append]
    exact content_flatMap_escaped _ _
  have hcolon : colon (':' :: (write m.2 ++ r)) = some ((), write m.2 ++ r) := rfl
  have hcontains : names.contains m.1 = true := List.contains_iff_mem.2 hname
  simp only [fieldMember, hkey, orSyntax, String.ofList_toList, bind, Except.bind, hnew, hcolon,
    hcontains, (h m.2).skipSpace, (h m.2).read, Option.isSome_none, Bool.and_false,
    Bool.false_eq_true, if_false, if_true]

/-- Fields with different names are all found, the last of them first. -/
theorem fieldsAfter_commas {found : Found α} {ms : List (String × β)} (hne : ms ≠ [])
    (hnames : ∀ m ∈ ms, m.1 ∈ names) (hnodup : (ms.map Prod.fst).Nodup)
    (hnew : ∀ m ∈ ms, found.lookup m.1 = none) {fuel : Nat} (hfuel : ms.length ≤ fuel)
    (r : List Char) :
    fieldsAfter names read fuel found
        (commas (ms.map (fieldText write)) ++ Char.ofNat 0x7D :: r) =
      .ok ((ms.map fun m => (m.1, value m.2)).reverse ++ found, r) := by
  induction ms generalizing found fuel with
  | nil => exact absurd rfl hne
  | cons m ms ih =>
    obtain ⟨fuel, rfl⟩ : ∃ n, fuel = n + 1 := Nat.exists_eq_succ_of_ne_zero (by
      rw [List.length_cons] at hfuel
      omega)
    have hm := hnames m List.mem_cons_self
    have hmnew := hnew m List.mem_cons_self
    cases ms with
    | nil =>
      simp only [List.map_cons, List.map_nil, commas, fieldsAfter, skipSpace_fieldText,
        fieldMember_fieldText h hm hmnew, bind, Except.bind]
      rfl
    | cons m' ms =>
      obtain ⟨hfirst, hrest⟩ := List.nodup_cons.1 hnodup
      have hlookup : ∀ d ∈ m' :: ms, ((m.1, value m.2) :: found).lookup d.1 = none := by
        intro d hd
        have hne : d.1 ≠ m.1 := fun h => hfirst (h ▸ List.mem_map_of_mem hd)
        rw [List.lookup_cons, beq_false_of_ne hne]
        exact hnew d (List.mem_cons_of_mem m hd)
      have hfuel' : (m' :: ms).length ≤ fuel := by simpa using hfuel
      have htail := ih (List.cons_ne_nil m' ms) (fun d hd => hnames d (List.mem_cons_of_mem m hd))
        hrest hlookup hfuel'
      have htext : commas ((m :: m' :: ms).map (fieldText write)) ++ Char.ofNat 0x7D :: r =
          fieldText write m ++
            ',' :: (commas ((m' :: ms).map (fieldText write)) ++ Char.ofNat 0x7D :: r) := by
        simp [commas]
      have hcomma : ∀ t, skipSpace (',' :: t) = ',' :: t := fun _ => rfl
      rw [htext]
      simp only [fieldsAfter, skipSpace_fieldText, fieldMember_fieldText h hm hmnew, bind,
        Except.bind, hcomma, htail]
      rw [List.map_cons (a := m), List.reverse_cons, List.append_assoc]
      rfl

theorem readFields_objectText {ms : List (String × β)} (hne : ms ≠ [])
    (hnames : ∀ m ∈ ms, m.1 ∈ names) (hnodup : (ms.map Prod.fst).Nodup) :
    readFields names read (objectText (ms.map fun m => (m.1, write m.2))) =
      .ok (ms.map fun m => (m.1, value m.2)).reverse := by
  have htext : objectText (ms.map fun m => (m.1, write m.2)) =
      Char.ofNat 0x7B :: (commas (ms.map (fieldText write)) ++ [Char.ofNat 0x7D]) := by
    rw [objectText, braces, List.map_map]
    rfl
  obtain ⟨t, ht⟩ :
      ∃ t, commas (ms.map (fieldText write)) ++ [Char.ofNat 0x7D] = '"' :: t := by
    cases ms with
    | nil => exact absurd rfl hne
    | cons m ms => cases ms <;> simp [commas, fieldText, quoted_append]
  have hfuel : ms.length ≤ t.length + 2 := by
    have hms := length_le_length_commas write ms
    have hlength := congrArg List.length ht
    simp only [List.length_append, List.length_cons, List.length_nil] at hlength
    omega
  have hread : fieldsAfter names read (t.length + 2) []
      (commas (ms.map (fieldText write)) ++ [Char.ofNat 0x7D]) = _ :=
    fieldsAfter_commas h hne hnames hnodup (fun _ _ => rfl) hfuel []
  have hspace : skipSpace ('"' :: t) = '"' :: t := rfl
  have hopen : skipSpace (Char.ofNat 0x7B :: '"' :: t) = Char.ofNat 0x7B :: '"' :: t := rfl
  have hbracket : (Char.ofNat 0x7B == '[') = false := rfl
  have hbrace : isOpenBrace (Char.ofNat 0x7B) = true := rfl
  have hquote : ('"' == Char.ofNat 0x7D) = false := rfl
  rw [ht, List.append_nil] at hread
  rw [htext, ht, readFields, hopen, fields]
  simp only [hbracket, hbrace, hspace, hquote, Bool.false_eq_true, if_false, if_true,
    List.length_cons, hread]
  rfl

end Fields

end ConditionRegistry.Json

namespace ConditionRegistry.Record
open Json

theorem ofJson?_json (e : Record) : ofJson? e.json = some e := by
  let ms := [("id", e.id), ("name", e.name), ("expression", e.text)]
  have hnames : ms.map Prod.fst = fieldNames := rfl
  have hread : readFields fieldNames stringField (objectText (ms.map fun m => (m.1, quoted m.2))) =
      .ok (ms.map fun m => (m.1, m.2)).reverse :=
    readFields_objectText Reads.string (List.cons_ne_nil _ _)
      (fun m hm => hnames ▸ List.mem_map_of_mem hm) (hnames ▸ by decide)
  have hjson : e.json = objectText (ms.map fun m => (m.1, quoted m.2)) := rfl
  rw [ofJson?, hjson, hread]
  rfl

end ConditionRegistry.Record
