import ConditionRegistry.Proofs.Bindings.Decoders
import ConditionRegistry.Proofs.RecordText

set_option autoImplicit false

/-!
# Scalars read back from their texts

A finite double is written with a point or an exponent and an integer with neither, so each is read
back as what it was. Strings are read back through their escapes.
-/

namespace ConditionRegistry
open Decimal Json

/-! ### Texts of doubles -/

namespace Decimal.Layout
variable (l : Layout) {x : Float}

theorem any_isMark_plain (hpoint : l.pointZero = true) (ds : List Char) (e : Int) :
    (l.plain ds e).any isMark = true := by
  have hmark : isMark '.' = true := rfl
  unfold plain
  split
  · simp [hmark]
  · dsimp only
    split <;> simp [hmark]

theorem any_isMark_scientific (ds : List Char) (e : Int) :
    (l.scientific ds e).any isMark = true := by
  have hmark : isMark 'e' = true := rfl
  simp [scientific, hmark]

theorem beginsNumber_plain (n : Nat) (e : Int) : BeginsNumber (l.plain (digitsOf n) e) := by
  obtain ⟨c, ds, hn, hc⟩ := exists_cons_toDigits n
  rw [digitsOf, hn]
  unfold plain
  split
  · exact ⟨'0', _, rfl, .inr rfl⟩
  · dsimp only
    rw [List.take_succ_cons]
    split
    · split <;> exact ⟨c, _, rfl, .inr hc⟩
    · exact ⟨c, _, rfl, .inr hc⟩

theorem beginsNumber_scientific (n : Nat) (e : Int) :
    BeginsNumber (l.scientific (digitsOf n) e) := by
  obtain ⟨c, ds, hn, hc⟩ := exists_cons_toDigits n
  rw [digitsOf, hn]
  cases ds <;> exact ⟨c, _, rfl, .inr hc⟩

section Finite
variable (hnan : x.isNaN = false) (hinf : x.isInf = false)
include hnan hinf

/-- The text of a finite double is digits in one of two forms, with a sign or without. -/
theorem write_induction {motive : List Char → Prop}
    (plain : ∀ n e, motive (l.plain (digitsOf n) e))
    (scientific : ∀ n e, motive (l.scientific (digitsOf n) e))
    (negative : ∀ s, motive s → motive ('-' :: s)) : motive (l.write x) := by
  unfold write
  rw [hnan, hinf, if_neg Bool.false_ne_true, if_neg Bool.false_ne_true]
  dsimp only
  split_ifs
  · exact negative _ (plain _ _)
  · exact negative _ (scientific _ _)
  · exact plain _ _
  · exact scientific _ _

theorem any_isMark_write (hpoint : l.pointZero = true) : (l.write x).any isMark = true := by
  refine l.write_induction (motive := fun s => s.any isMark = true) hnan hinf
    (fun n => l.any_isMark_plain hpoint _) (fun n => l.any_isMark_scientific _) fun s hs => ?_
  rw [List.any_cons, hs, Bool.or_true]

theorem beginsNumber_write : BeginsNumber (l.write x) :=
  l.write_induction hnan hinf l.beginsNumber_plain l.beginsNumber_scientific
    fun s _ => ⟨'-', s, rfl, .inl rfl⟩

end Finite

end Decimal.Layout

/-! ### Doubles -/

def Json.doubleOf? (s : List Char) : Option Float :=
  match digits s with
  | some (d, []) => d.double?
  | _ => none

theorem read?_of_value {s : List Char} {v : Value} (hs : skipSpace s = s)
    (h : value maxDepth s = some (v, [])) : read? s = some v := by
  rw [read?, hs, h]
  rfl

theorem read?_of_number {s : List Char} {n : Number} (h : number s = some (n, [])) :
    read? s = some (.number n) := by
  have hbegins := beginsNumber_of_number h
  exact read?_of_value hbegins.skipSpace_eq (by rw [hbegins.value_eq, h]; rfl)

theorem number_of_doubleOf? {s : List Char} {x : Float} (hmark : s.any isMark = true)
    (h : doubleOf? s = some x) : number s = some (.double x, []) := by
  unfold doubleOf? at h
  split at h
  · rename_i d hd
    obtain ⟨t, hs, ht⟩ := digits_eq_some hd
    rw [List.append_nil] at hs
    subst hs
    have hword : ¬ IsWord s := fun hword => by
      rw [hword.unmarked] at hmark
      cases hmark
    rw [number, hd]
    dsimp only
    rw [ht.number?_of_not_isWord hword, h]
    rfl
  · cases h

theorem isMark_of_isSpace {c : Char} (h : isSpace c = true) : isMark c = false := by
  simp only [isSpace, Bool.or_eq_true, beq_iff_eq] at h
  rcases h with ((rfl | rfl) | rfl) | rfl <;> rfl

theorem double_of_read? {s : List Char} {v : Value} (hbegins : BeginsNumber s)
    (hmark : s.any isMark = true) (h : read? s = some v) : ∃ x, v = .number (.double x) := by
  unfold read? at h
  rw [hbegins.skipSpace_eq, hbegins.value_eq] at h
  cases hn : number s with
  | none =>
    rw [hn] at h
    cases h
  | some p =>
    obtain ⟨n, r⟩ := p
    rw [hn] at h
    dsimp only [Option.map_some] at h
    split at h
    · rename_i hrest
      cases h
      obtain ⟨t, rfl, ⟨ht, -⟩ | ⟨-, x, rfl⟩⟩ := number_eq_some hn
      · rw [List.isEmpty_iff, skipSpace, List.dropWhile_eq_nil_iff] at hrest
        have hunmarked : r.any isMark = false :=
          List.any_eq_false.2 fun c hc => by
            rw [isMark_of_isSpace (hrest c hc)]
            exact Bool.false_ne_true
        rw [List.any_append, ht.unmarked, hunmarked] at hmark
        cases hmark
      · exact ⟨x, rfl⟩
    · cases h

/-! ### Integers -/

theorem isWhole_toDigits (n : Nat) : IsWhole (Nat.toDigits 10 n) where
  ne_nil := Nat.toDigits_ne_nil
  isDigit _ := isDigit_of_mem_toDigits
  noZero c r h := by
    rcases Nat.eq_zero_or_pos n with rfl | hn
    · cases h
    · exact head_toDigits_ne_zero hn.ne' _ h

theorem wholeDigits?_of_isWhole {ds : List Char} (h : IsWhole ds) :
    wholeDigits? ds = some (ds, []) := by
  have htake : takeDigits ds = (ds, []) := by
    rw [takeDigits, List.span_eq_takeWhile_dropWhile, List.takeWhile_eq_self_iff.2 h.isDigit,
      List.dropWhile_eq_nil_iff.2 h.isDigit]
  unfold wholeDigits?
  rw [htake]
  split
  · rename_i hnil
    exact absurd (Prod.ext_iff.1 hnil).1 h.ne_nil
  · rename_i hzero
    exact absurd (Prod.ext_iff.1 hzero).1 (h.noZero _ _)
  · rename_i heq
    rw [heq]

theorem digits_signed (negative : Bool) {ds : List Char} (h : IsWhole ds) :
    digits ((if negative then ['-'] else []) ++ ds) = some (⟨negative, ds, none, none⟩, []) := by
  cases negative with
  | true =>
    unfold digits
    simp [wholeDigits?_of_isWhole h, fractionDigits?, exponentDigits?]
  | false =>
    obtain ⟨c, r, rfl⟩ := List.exists_cons_of_ne_nil h.ne_nil
    have hc : c ≠ '-' := by
      rintro rfl
      cases h.isDigit '-' List.mem_cons_self
    unfold digits
    simp [wholeDigits?_of_isWhole h, fractionDigits?, exponentDigits?, hc]

theorem integerText_eq_signed (n : Int) :
    integerText n = (if decide (n < 0) then ['-'] else []) ++ Nat.toDigits 10 n.natAbs := by
  simp only [decide_eq_true_eq, integerText_eq]

theorem wholeOf_integerText (n : Int) : wholeOf (integerText n) = n := by
  rw [integerText_eq_signed, wholeOf_signed _ fun c => isDigit_of_mem_toDigits, valueOf_toDigits]
  split_ifs with hneg
  · rw [decide_eq_true_eq] at hneg
    omega
  · rw [decide_eq_true_eq] at hneg
    omega

theorem isWord_integerText (m : Int64) : IsWord (integerText m.toInt) where
  unmarked := by
    rw [integerText_eq_signed, List.any_append,
      any_isMark_of_isDigit fun c => isDigit_of_mem_toDigits]
    split <;> rfl
  notMinusZero h := by
    have hzero : m.toInt = 0 := by
      rw [← wholeOf_integerText m.toInt, h]
      rfl
    rw [hzero] at h
    cases h
  lower := by
    rw [wholeOf_integerText]
    exact m.le_toInt
  upper := by
    rw [wholeOf_integerText]
    exact m.toInt_le.trans (by decide)

theorem number_integerText (m : Int64) :
    number (integerText m.toInt) = some (.integer m.toInt, []) := by
  have hdigits := digits_signed (decide (m.toInt < 0)) (isWhole_toDigits m.toInt.natAbs)
  rw [← integerText_eq_signed] at hdigits
  obtain ⟨t, ht, hspells⟩ := digits_eq_some hdigits
  rw [List.append_nil] at ht
  subst ht
  rw [number, hdigits]
  dsimp only
  rw [hspells.number?_of_isWord (isWord_integerText m), wholeOf_integerText]
  rfl

/-! ### Strings and truth values -/

theorem read?_quoted (s : String) : read? (quoted s) = some (.string s) := by
  have hskip := skipSpace_quoted s []
  rw [List.append_nil] at hskip
  refine read?_of_value hskip ?_
  unfold value
  dsimp only [quoted]
  rw [content_flatMap_escaped]
  simp

theorem read?_boolText (b : Bool) : read? (boolText b) = some (.bool b) := by
  cases b with
  | true => exact read?_of_value rfl (by unfold value; rfl)
  | false => exact read?_of_value rfl (by unfold value; rfl)

/-! ### Scalars -/

/-- A scalar other than a double that is infinite or no number. -/
def Scalar.IsFinite : Scalar → Prop
  | .float x => x.isNaN = false ∧ x.isInf = false
  | .integer _ | .boolean _ | .string _ => True

/-- A value is taken as a scalar at once and by trial. -/
structure IsTakenAs (w : Value) (v : Scalar) : Prop where
  atOnce : scalarOfJson w = .ok v
  byTrial : firstScalar? w = some v

theorem isTakenAs_of_scalarOfJson? {w : Value} {v : Scalar} (h : scalarOfJson? w = some v) :
    IsTakenAs w v :=
  ⟨by rw [scalarOfJson, h], by rw [firstScalar?_eq, h]⟩

/-- A scalar other than a double that is infinite or no number is read back as a scalar of its
    type, and as the scalar itself if it is no double or the digits of the double are those of
    the same double. -/
theorem scalar_read_back {v : Scalar} (hv : v.IsFinite) :
    (∀ w, read? v.json = some w → ∃ u, IsTakenAs w u ∧ u.typeName = v.typeName) ∧
      ((∀ x, v = .float x → doubleOf? (Layout.json.write x) = some x) →
        ∃ w, read? v.json = some w ∧ IsTakenAs w v) := by
  have hsame {w : Value} (hread : read? v.json = some w) (hw : scalarOfJson? w = some v) :
      (∀ w, read? v.json = some w → ∃ u, IsTakenAs w u ∧ u.typeName = v.typeName) ∧
        ∃ w, read? v.json = some w ∧ IsTakenAs w v := by
    have htaken := isTakenAs_of_scalarOfJson? hw
    refine ⟨fun w' hw' => ⟨v, ?_, rfl⟩, w, hread, htaken⟩
    rw [hread] at hw'
    cases hw'
    exact htaken
  cases v with
  | integer m =>
    have hinteger : scalarOfJson? (.number (.integer m.toInt)) = some (.integer m) := by
      rw [scalarOfJson?, scalarOfNumber, int64?_eq_some_iff.2 rfl]
    exact (hsame (read?_of_number (number_integerText m)) hinteger).imp_right fun h _ => h
  | float x =>
    obtain ⟨hnan, hinf⟩ := hv
    have hmark := Layout.json.any_isMark_write hnan hinf rfl
    constructor
    · intro w hw
      obtain ⟨y, rfl⟩ := double_of_read? (Layout.json.beginsNumber_write hnan hinf) hmark hw
      exact ⟨.float y, isTakenAs_of_scalarOfJson? rfl, rfl⟩
    · intro hdigits
      have hnumber := number_of_doubleOf? hmark (hdigits x rfl)
      exact ⟨_, read?_of_number hnumber, isTakenAs_of_scalarOfJson? rfl⟩
  | boolean b => exact (hsame (read?_boolText b) rfl).imp_right fun h _ => h
  | string s => exact (hsame (read?_quoted s) rfl).imp_right fun h _ => h

/-- Minus zero is read back with its sign. -/
theorem scalar_read_back_minusZero :
    ∃ w, read? (Scalar.float (-0.0)).json = some w ∧ IsTakenAs w (.float (-0.0)) := by
  have hfinite : (Scalar.float (-0.0)).IsFinite := ⟨by decide +kernel, by decide +kernel⟩
  refine (scalar_read_back hfinite).2 fun x hx => ?_
  cases hx
  have htext : Layout.json.write (-0.0) = ['-', '0', '.', '0'] := by decide +kernel
  rw [htext]
  rfl

end ConditionRegistry
