import ConditionRegistry.Proofs.Bindings
import ConditionRegistry.Proofs.ByteOrder
import ConditionRegistry.Proofs.Integers
import ConditionRegistry.Proofs.Members
import ConditionRegistry.Proofs.Numerals

set_option autoImplicit false

/-!
# Two decoders of bindings

Bindings are made of the sorted members of an object, each value classified at once, or of the
members as they are written, each value tried as one kind of scalar after another. Where no name
comes twice, both make the same bindings or none.
-/

namespace ConditionRegistry
open Decimal Json Text

/-! ### By trial -/

theorem firstScalar?_eq (v : Value) : firstScalar? v = scalarOfJson? v := by
  cases v with
  | number n =>
    cases n with
    | integer i =>
      have htake : firstScalar? (.number (.integer i)) =
          ((int64? i).map Scalar.integer).or (some (.float (Number.integer i).toFloat)) := by
        cases hi : int64? i <;>
          simp [firstScalar?, ScalarKind.all, List.findSome?, ScalarKind.take?, hi]
      rw [htake, scalarOfJson?, scalarOfNumber]
      cases int64? i <;> rfl
    | double x => rfl
  | _ => rfl

theorem mapM_scalarOfJson?_eq (members : List (String × Value)) :
    (members.mapM fun m => (scalarOfJson? m.2).map fun v => (m.1, v)) =
      (bindingsOfMembers members).toOption := by
  induction members with
  | nil => rfl
  | cons m r ih =>
    rw [List.mapM_cons, ih, bindingsOfMembers]
    cases scalarOfJson? m.2 with
    | none => rfl
    | some s => cases bindingsOfMembers r <;> rfl

theorem firstBindings?_eq (members : List (String × Value)) :
    firstBindings? members = (bindingsOfJson members).toOption := by
  simp only [firstBindings?, firstScalar?_eq, mapM_scalarOfJson?_eq, bindingsOfJson]
  cases bindingsOfMembers members <;> rfl

/-! ### Bindings of members -/

def Json.Value.IsScalar : Value → Prop
  | .bool _ | .number _ | .string _ => True
  | .null | .array _ | .object _ => False

def Json.Value.isNumber : Value → Bool
  | .number _ => true
  | _ => false

theorem Json.Value.isNumber_iff {v : Value} : v.isNumber = true ↔ ∃ n, v = .number n := by
  cases v <;> simp [isNumber]

theorem scalarOfJson?_ne_none_iff (v : Value) : scalarOfJson? v ≠ none ↔ v.IsScalar := by
  cases v <;> simp [scalarOfJson?, Value.IsScalar]

theorem exists_bindingsOfJson_iff (members : List (String × Value)) :
    (∃ b, bindingsOfJson members = .ok b) ↔ ∀ m ∈ members, m.2.IsScalar := by
  constructor
  · rintro ⟨b, hb⟩ m hm
    exact (scalarOfJson?_ne_none_iff m.2).1 ((of_bindingsOfJson_eq_ok hb).1 m hm)
  · intro hall
    cases hb : bindingsOfJson members with
    | ok b => exact ⟨b, rfl⟩
    | error f =>
      obtain ⟨_, m, _, rfl, -, hnone, -⟩ := bindingsOfJson_eq_error hb
      exact absurd hnone ((scalarOfJson?_ne_none_iff m.2).2 (hall m (by simp)))

theorem Bindings.find?_ofList_eq_some_iff {es : List (String × Scalar)}
    (h : (es.map Prod.fst).Nodup) (name : String) (x : Scalar) :
    (ofList es).find? name = some x ↔ (name, x) ∈ es := by
  induction es using List.reverseRecOn with
  | nil => simp [ofList, find?_empty]
  | append_singleton es e ih =>
    rw [List.map_append, List.map_singleton, ← List.concat_eq_append, List.nodup_concat] at h
    have hlast : ofList (es ++ [e]) = (ofList es).insert e.1 e.2 :=
      List.foldl_concat _ empty e es
    rw [hlast, find?_insert, List.mem_append, List.mem_singleton]
    by_cases hname : name = e.1
    · subst hname
      have hnew : (e.1, x) ∉ es := fun hmem => h.1 (List.mem_map.2 ⟨_, hmem, rfl⟩)
      rw [if_pos rfl, or_iff_right hnew, Prod.ext_iff, Option.some.injEq]
      exact ⟨fun hx => ⟨rfl, hx.symm⟩, fun hx => hx.2.symm⟩
    · have hother : (name, x) ≠ e := fun heq => hname (congrArg Prod.fst heq)
      rw [if_neg hname, ih h.2, or_iff_left hother]

theorem mem_of_bindingsOfMembers {members : List (String × Value)} {es : List (String × Scalar)}
    (h : bindingsOfMembers members = .ok es) :
    es.map Prod.fst = members.map Prod.fst ∧
      ∀ name x, (name, x) ∈ es ↔ ∃ m ∈ members, m.1 = name ∧ scalarOfJson? m.2 = some x := by
  have hall := bindingsOfMembers_eq_ok_iff.1 h
  clear h
  induction hall with
  | nil => simp
  | @cons m e r es hfirst _ ih =>
    refine ⟨by rw [List.map_cons, List.map_cons, ih.1, hfirst.1], fun name x => ?_⟩
    rw [List.mem_cons, List.exists_mem_cons_iff, ih.2, hfirst.1, hfirst.2, Prod.ext_iff,
      Option.some.injEq]
    exact or_congr_left (and_congr eq_comm eq_comm)

theorem find?_of_bindingsOfJson {members : List (String × Value)} {b : Bindings}
    (h : (members.map Prod.fst).Nodup) (hb : bindingsOfJson members = .ok b) (name : String)
    (x : Scalar) :
    b.find? name = some x ↔ ∃ m ∈ members, m.1 = name ∧ scalarOfJson? m.2 = some x := by
  rw [bindingsOfJson] at hb
  cases hes : bindingsOfMembers members with
  | error f =>
    rw [hes] at hb
    cases hb
  | ok es =>
    rw [hes] at hb
    cases hb
    obtain ⟨hnames, hmem⟩ := mem_of_bindingsOfMembers hes
    rw [Bindings.find?_ofList_eq_some_iff (hnames ▸ h), hmem]

theorem names_of_find? {members : List (String × Value)} {b : Bindings}
    (hscalar : ∀ m ∈ members, m.2.IsScalar)
    (hfind : ∀ name x, b.find? name = some x ↔
      ∃ m ∈ members, m.1 = name ∧ scalarOfJson? m.2 = some x) (name : String) :
    b.find? name ≠ none ↔ name ∈ members.map Prod.fst := by
  rw [List.mem_map, Option.ne_none_iff_exists']
  constructor
  · rintro ⟨x, hx⟩
    obtain ⟨m, hm, hname, -⟩ := (hfind name x).1 hx
    exact ⟨m, hm, hname⟩
  · rintro ⟨m, hm, hname⟩
    obtain ⟨x, hx⟩ :=
      Option.ne_none_iff_exists'.1 ((scalarOfJson?_ne_none_iff m.2).2 (hscalar m hm))
    exact ⟨x, (hfind name x).2 ⟨m, hm, hname, hx⟩⟩

/-- The member with the least name, by its bytes, of those that are no scalars. -/
structure IsLeastUnsuited (members : List (String × Value)) (m : String × Value) : Prop where
  mem : m ∈ members
  unsuited : ¬ m.2.IsScalar
  least : ∀ d ∈ members, ¬ d.2.IsScalar → d.1 ≠ m.1 → bytesOf m.1.toList < bytesOf d.1.toList

/-- Of sorted members, the first that is no scalar has the least name. -/
theorem fault_of_ascending {members : List (String × Value)} {f : Fault} (h : Ascending members)
    (hf : bindingsOfJson members = .error f) :
    ∃ m, IsLeastUnsuited members m ∧
      f = ⟨.invalidArgument, "Unsupported value for variable '" ++ m.1 ++ "'"⟩ := by
  obtain ⟨before, m, after, rfl, hbefore, hnone, hmessage⟩ := bindingsOfJson_eq_error hf
  refine ⟨m, ⟨by simp, ?_, fun d hd hscalar hne => ?_⟩, hmessage⟩
  · rw [← scalarOfJson?_ne_none_iff]
    exact not_not_intro hnone
  · rw [← scalarOfJson?_ne_none_iff] at hscalar
    rcases List.mem_append.1 hd with hd | hd
    · exact absurd (hbefore d hd) hscalar
    · rcases List.mem_cons.1 hd with rfl | hd
      · exact absurd rfl hne
      · have hafter := (List.pairwise_append.1 h).2.1
        exact bytesOf_lt_bytesOf ((List.pairwise_cons.1 hafter).1 d hd)

/-! ### Members as they are written -/

structure Json.Piece where
  text : List Char
  value : Value

namespace Json.Piece

def scan (depth : Nat) : Scan Piece := fun s =>
  (Json.value depth s).map fun p => (⟨s.take (s.length - p.2.length), p.1⟩, p.2)

theorem forgets_scan (depth : Nat) : Forgets value (scan depth) (Json.value depth) := by
  intro s
  rw [scan, Option.map_map]
  exact (Option.map_id' ..).symm

/-- The scalar of a value as it is written. A number is an integer if its text is that of an integer
    that fits a word with a sign, and otherwise a double. -/
inductive StandsFor : Piece → Scalar → Prop
  | boolean (t : List Char) (b : Bool) : StandsFor ⟨t, .bool b⟩ (.boolean b)
  | string (t : List Char) (s : String) : StandsFor ⟨t, .string s⟩ (.string s)
  | integer {t : List Char} (n : Number) {m : Int64} (h : IsInteger int64Low int64High t)
      (hm : m.toInt = wholeOf t) : StandsFor ⟨t, .number n⟩ (.integer m)
  | float {t : List Char} (n : Number) (h : ¬ IsInteger int64Low int64High t) :
    StandsFor ⟨t, .number n⟩ (.float n.toFloat)

theorem StandsFor.eq_integer {t : List Char} {n : Number} {x : Scalar}
    (h : StandsFor ⟨t, .number n⟩ x) (ht : IsInteger int64Low int64High t) :
    ∃ m : Int64, x = .integer m ∧ m.toInt = wholeOf t := by
  cases h with
  | integer _ _ hm => exact ⟨_, rfl, hm⟩
  | float _ hnot => exact absurd ht hnot

theorem StandsFor.eq_float {t : List Char} {n : Number} {x : Scalar}
    (h : StandsFor ⟨t, .number n⟩ x) (ht : ¬ IsInteger int64Low int64High t) :
    ∃ y, x = .float y := by
  cases h with
  | integer _ hfits _ => exact absurd hfits ht
  | float _ _ => exact ⟨_, rfl⟩

theorem standsFor_of_number {s r : List Char} {n : Number} (h : number s = some (n, r)) :
    ∃ t, s = t ++ r ∧ StandsFor ⟨t, .number n⟩ (scalarOfNumber n) := by
  obtain ⟨t, hs, ⟨ht, rfl⟩ | ⟨ht, x, rfl⟩⟩ := number_eq_some h
  · refine ⟨t, hs, ?_⟩
    rw [scalarOfNumber]
    cases hm : int64? (wholeOf t) with
    | some m =>
      rw [int64?_eq_some_iff] at hm
      exact .integer _ ⟨ht.unmarked, ht.notMinusZero, hm ▸ m.le_toInt, hm ▸ m.toInt_le⟩ hm
    | none =>
      refine .float _ fun hfits => ?_
      rw [int64?, if_pos ⟨hfits.lower, hfits.upper⟩] at hm
      cases hm
  · exact ⟨t, hs, .float _ fun hfits => ht
      ⟨hfits.unmarked, hfits.notMinusZero, hfits.lower, hfits.upper.trans (by decide)⟩⟩

theorem standsFor_of_scan {depth : Nat} {s r : List Char} {p : Piece} {x : Scalar}
    (h : scan depth s = some (p, r)) (hx : scalarOfJson? p.value = some x) : p.StandsFor x := by
  obtain ⟨⟨v, r'⟩, hv, heq⟩ := Option.map_eq_some_iff.1 h
  cases heq
  cases v with
  | bool b =>
    cases hx
    exact .boolean _ b
  | string t =>
    cases hx
    exact .string _ t
  | number n =>
    cases hx
    obtain ⟨t, rfl, ht⟩ := standsFor_of_number (number_of_value hv)
    simpa using ht
  | _ => cases hx

end Json.Piece

def Json.pieces? (s : List Char) : Option (List (String × Piece)) :=
  object? (Piece.scan (maxDepth - 1)) s

def Json.valuesOf (ms : List (String × Piece)) : List (String × Value) :=
  ms.map fun m => (m.1, m.2.value)

/-- Each name is bound to what its value stands for as it is written, and nothing else is. -/
structure Binds (ms : List (String × Piece)) (b : Bindings) : Prop where
  names : ∀ name, b.find? name ≠ none ↔ name ∈ ms.map Prod.fst
  values : ∀ m ∈ ms, ∃ x, b.find? m.1 = some x ∧ m.2.StandsFor x

section Written
variable {s : List Char} {ms : List (String × Piece)} (hms : pieces? s = some ms)

theorem object?_eq_valuesOf (s : List Char) :
    object? (value (maxDepth - 1)) s = (pieces? s).map valuesOf :=
  object?_of_forgets (Piece.forgets_scan _) s

theorem map_fst_valuesOf (ms : List (String × Piece)) :
    (valuesOf ms).map Prod.fst = ms.map Prod.fst := by
  simp [valuesOf]

include hms

/-- Trial reads the same values as they are written. -/
theorem readBindings?_eq_some_iff {d : Bindings} :
    readBindings? s = some d ↔ bindingsOfJson (valuesOf ms) = .ok d := by
  have hread : readBindings? s = (bindingsOfJson (valuesOf ms)).toOption := by
    rw [readBindings?_eq, object?_eq_valuesOf, hms]
    exact firstBindings?_eq _
  rw [hread]
  cases bindingsOfJson (valuesOf ms) <;> simp [Except.toOption]

theorem binds_of_find? {b : Bindings} (hscalar : ∀ m ∈ valuesOf ms, m.2.IsScalar)
    (hfind : ∀ name x, b.find? name = some x ↔
      ∃ m ∈ valuesOf ms, m.1 = name ∧ scalarOfJson? m.2 = some x) : Binds ms b where
  names name := by
    rw [← map_fst_valuesOf]
    exact names_of_find? hscalar hfind name
  values m hm := by
    have hmem : (m.1, m.2.value) ∈ valuesOf ms := List.mem_map_of_mem hm
    obtain ⟨x, hx⟩ :=
      Option.ne_none_iff_exists'.1 ((scalarOfJson?_ne_none_iff _).2 (hscalar _ hmem))
    obtain ⟨u, v, hscan⟩ := exists_item_of_mem_object? hms hm
    exact ⟨x, (hfind m.1 x).2 ⟨_, hmem, rfl, hx⟩, Piece.standsFor_of_scan hscan hx⟩

end Written

/-- The members of an object make bindings exactly if all of them are numbers, booleans or strings,
    the same bindings at once and by trial. If they make none, the fault tells the least name of a
    member that is no scalar. A text of the object in which no name is written twice makes bindings
    for the same members, and the same bindings. -/
theorem binding_decoders_agree {members : List (String × Value)} (hasc : Ascending members) :
    firstBindings? members = (bindingsOfJson members).toOption ∧
      ((∃ b, bindingsOfJson members = .ok b) ↔ ∀ m ∈ members, m.2.IsScalar) ∧
      (∀ b, bindingsOfJson members = .ok b →
        ∀ name, b.find? name ≠ none ↔ name ∈ members.map Prod.fst) ∧
      (∀ f, bindingsOfJson members = .error f → ∃ m, IsLeastUnsuited members m ∧
        f = ⟨.invalidArgument, "Unsupported value for variable '" ++ m.1 ++ "'"⟩) ∧
      ∀ s, read? s = some (.object members) →
        ∃ ms, pieces? s = some ms ∧ members = sortMembers (valuesOf ms) ∧
          ((ms.map Prod.fst).Nodup →
            ((∃ d, readBindings? s = some d) ↔ ∀ m ∈ members, m.2.IsScalar) ∧
            ∀ b d, bindingsOfJson members = .ok b → readBindings? s = some d →
              (∀ name, b.find? name = d.find? name) ∧ Binds ms b) := by
  have hscalars := exists_bindingsOfJson_iff members
  have hnodup := hasc.nodup
  refine ⟨firstBindings?_eq _, hscalars, fun b hb => ?_, fun f => fault_of_ascending hasc,
    fun s hs => ?_⟩
  · exact names_of_find? (hscalars.1 ⟨b, hb⟩) (find?_of_bindingsOfJson hnodup hb)
  obtain ⟨vs, hvs, rfl⟩ := read?_eq_object_iff.1 hs
  rw [object?_eq_valuesOf] at hvs
  obtain ⟨ms, hms, rfl⟩ := Option.map_eq_some_iff.1 hvs
  refine ⟨ms, hms, rfl, fun hwritten => ?_⟩
  rw [← map_fst_valuesOf] at hwritten
  have hperm := sortMembers_perm hwritten
  refine ⟨?_, fun b d hb hd => ?_⟩
  · simp only [readBindings?_eq_some_iff hms, exists_bindingsOfJson_iff, hperm.mem_iff]
  · rw [readBindings?_eq_some_iff hms] at hd
    have hfind : ∀ name x, b.find? name = some x ↔
        ∃ m ∈ valuesOf ms, m.1 = name ∧ scalarOfJson? m.2 = some x := by
      intro name x
      rw [find?_of_bindingsOfJson hnodup hb]
      simp only [hperm.mem_iff]
    refine ⟨fun name => Option.ext fun x => ?_, binds_of_find? hms ?_ hfind⟩
    · rw [hfind, find?_of_bindingsOfJson hwritten hd]
    · exact (exists_bindingsOfJson_iff _).1 ⟨d, hd⟩

/-- Numbers on both sides of a limit of words with a sign, minus zero, and a whole double. -/
def boundaryNumbers : List Char :=
  ("\x7b\"d\": 9223372036854775808, \"c\": -0, \"a\": 1.0, " ++
    "\"b\": -9223372036854775808\x7d").toList

/-- Of the four numbers, only the least word is an integer. -/
theorem binding_decoders_agree_boundaryNumbers :
    ∃ sorted b d, read? boundaryNumbers = some (.object sorted) ∧
      bindingsOfJson sorted = .ok b ∧ readBindings? boundaryNumbers = some d ∧
      (∀ name, b.find? name = d.find? name) ∧ b.find? "b" = some (.integer Int64.minValue) ∧
      ∀ name ∈ ["a", "c", "d"], ∃ x, b.find? name = some (.float x) := by
  have houtline : ((pieces? boundaryNumbers).map fun ms =>
      ms.map fun m => (m.1, m.2.text, m.2.value.isNumber)) =
    some [("d", "9223372036854775808".toList, true), ("c", "-0".toList, true),
      ("a", "1.0".toList, true), ("b", "-9223372036854775808".toList, true)] := by
    decide +kernel
  obtain ⟨ms, hms, houtline⟩ := Option.map_eq_some_iff.1 houtline
  have hnumber : ∀ m ∈ ms, ∃ n, m.2.value = .number n := by
    intro m hm
    have hall := congrArg (fun l => l.all fun e => e.2.2) houtline
    rw [List.all_map] at hall
    exact Value.isNumber_iff.1 (List.all_eq_true.1 hall m hm)
  have htexts : ms.map (fun m => (m.1, m.2.text)) =
      [("d", "9223372036854775808".toList), ("c", "-0".toList), ("a", "1.0".toList),
        ("b", "-9223372036854775808".toList)] := by
    have hfst := congrArg (List.map fun e => (e.1, e.2.1)) houtline
    rwa [List.map_map] at hfst
  have hnames : ms.map Prod.fst = ["d", "c", "a", "b"] := by
    have hfst := congrArg (List.map Prod.fst) htexts
    rwa [List.map_map] at hfst
  have hdistinct : (ms.map Prod.fst).Nodup := by
    rw [hnames]
    decide
  have hscalars : ∀ m ∈ sortMembers (valuesOf ms), m.2.IsScalar := by
    intro m hm
    rw [(sortMembers_perm (by rwa [map_fst_valuesOf])).mem_iff] at hm
    obtain ⟨p, hp, rfl⟩ := List.mem_map.1 hm
    obtain ⟨n, hn⟩ := hnumber p hp
    rw [hn]
    trivial
  have hs : read? boundaryNumbers = some (.object (sortMembers (valuesOf ms))) :=
    read?_eq_object_iff.2 ⟨_, by rw [object?_eq_valuesOf, hms, Option.map_some], rfl⟩
  obtain ⟨-, hok, -, -, hwritten⟩ := binding_decoders_agree (ascending_sortMembers (valuesOf ms))
  obtain ⟨ms', hms', -, hagree⟩ := hwritten _ hs
  obtain rfl : ms = ms' := Option.some.inj (hms.symm.trans hms')
  obtain ⟨hread, hsame⟩ := hagree hdistinct
  obtain ⟨b, hb⟩ := hok.2 hscalars
  obtain ⟨d, hd⟩ := hread.2 hscalars
  obtain ⟨hfind, hbinds⟩ := hsame b d hb hd
  have hstands : ∀ name text, (name, text) ∈ ms.map (fun m => (m.1, m.2.text)) →
      ∃ x n, b.find? name = some x ∧ Piece.StandsFor ⟨text, .number n⟩ x := by
    intro name text hmem
    obtain ⟨m, hm, heq⟩ := List.mem_map.1 hmem
    cases heq
    obtain ⟨x, hx, hp⟩ := hbinds.values m hm
    obtain ⟨n, hn⟩ := hnumber m hm
    refine ⟨x, n, hx, ?_⟩
    rwa [← hn]
  have hfloat : ∀ name text, (name, text) ∈ ms.map (fun m => (m.1, m.2.text)) →
      ¬ IsInteger int64Low int64High text → ∃ x, b.find? name = some (.float x) := by
    intro name text hmem htext
    obtain ⟨x, n, hx, hp⟩ := hstands name text hmem
    obtain ⟨y, rfl⟩ := hp.eq_float htext
    exact ⟨y, hx⟩
  rw [htexts] at hstands hfloat
  refine ⟨_, b, d, hs, hb, hd, hfind, ?_, ?_⟩
  · obtain ⟨x, n, hx, hp⟩ := hstands "b" "-9223372036854775808".toList (by simp)
    obtain ⟨m, rfl, hm⟩ := hp.eq_integer ⟨rfl, by decide, by decide, by decide⟩
    rw [hx, Int64.toInt_inj.1 (hm.trans (b := Int64.minValue.toInt) rfl)]
  · intro name hname
    simp only [List.mem_cons, List.not_mem_nil, or_false] at hname
    rcases hname with rfl | rfl | rfl
    · exact hfloat _ "1.0".toList (by simp) fun h => absurd h.unmarked (by decide)
    · exact hfloat _ "-0".toList (by simp) fun h => h.notMinusZero rfl
    · exact hfloat _ "9223372036854775808".toList (by simp) fun h => absurd h.upper (by decide)

end ConditionRegistry
