import ConditionRegistry.Json.Reader
import ConditionRegistry.Proofs.Integers
import Mathlib.Data.List.TakeDrop
import Mathlib.Data.List.TakeWhile

set_option autoImplicit false

/-!
# Numbers as they are written in JSON

A number is a sign, whole digits, a fraction and an exponent. Whether it is an integer or a double
goes by its text alone: without a point and an exponent it is an integer, unless it is minus zero or
fits no word.
-/

namespace ConditionRegistry.Json
open Decimal

def isMark (c : Char) : Bool := c == '.' || isExponentMark c

def wholeOf : List Char → Int
  | '-' :: ds => -(valueOf ds : Int)
  | ds => valueOf ds

/-- The text of an integer within bounds, other than minus zero. -/
structure IsInteger (low high : Int) (t : List Char) : Prop where
  unmarked : t.any isMark = false
  notMinusZero : t ≠ ['-', '0']
  lower : low ≤ wholeOf t
  upper : wholeOf t ≤ high

abbrev IsWord : List Char → Prop := IsInteger int64Low uint64High

/-! ### Digits -/

theorem isMark_of_isDigit {c : Char} (h : c.isDigit = true) : isMark c = false := by
  have hne : ∀ d, d.isDigit = false → (c == d) = false := by
    intro d hd
    refine beq_false_of_ne ?_
    rintro rfl
    rw [h] at hd
    cases hd
  simp only [isMark, isExponentMark, hne '.' rfl, hne 'e' rfl, hne 'E' rfl, Bool.or_self]

theorem any_isMark_of_isDigit {ds : List Char} (h : ∀ c ∈ ds, c.isDigit = true) :
    ds.any isMark = false :=
  List.any_eq_false.2 fun c hc => by
    rw [isMark_of_isDigit (h c hc)]
    exact Bool.false_ne_true

theorem takeDigits_eq {s ds r : List Char} (h : takeDigits s = (ds, r)) :
    s = ds ++ r ∧ ∀ c ∈ ds, c.isDigit = true := by
  rw [takeDigits, List.span_eq_takeWhile_dropWhile] at h
  cases h
  exact ⟨List.takeWhile_append_dropWhile.symm, fun c hc => List.mem_takeWhile_imp hc⟩

/-- Digits without a superfluous zero at the front. -/
structure IsWhole (ds : List Char) : Prop where
  ne_nil : ds ≠ []
  isDigit : ∀ c ∈ ds, c.isDigit = true
  noZero : ∀ c r, ds ≠ '0' :: c :: r

theorem wholeDigits?_eq_some {s ds r : List Char} (h : wholeDigits? s = some (ds, r)) :
    s = ds ++ r ∧ IsWhole ds := by
  unfold wholeDigits? at h
  split at h
  · cases h
  · cases h
  · rename_i ds' r' hnil hzero htake
    cases h
    obtain ⟨hs, hdigit⟩ := takeDigits_eq htake
    exact ⟨hs, hnil, hdigit, hzero⟩

theorem eq_zero_of_digitValue {c : Char} (h : c.isDigit = true) (hc : digitValue c = 0) :
    c = '0' := by
  have hlow : 48 ≤ c.toNat := (Bool.and_eq_true_iff.1 h).1 |> of_decide_eq_true
  rw [digitValue] at hc
  refine Char.toNat_inj.1 ?_
  change c.toNat = 48
  omega

theorem IsWhole.valueOf_eq_zero_iff {ds : List Char} (h : IsWhole ds) :
    valueOf ds = 0 ↔ ds = ['0'] := by
  constructor
  · intro hzero
    cases ds with
    | nil => exact absurd rfl h.ne_nil
    | cons c r =>
      have hle : 10 * 0 + digitValue c ≤ valueOf (c :: r) := le_valueFrom _ r
      obtain rfl := eq_zero_of_digitValue (h.isDigit c List.mem_cons_self) (by omega)
      cases r with
      | nil => rfl
      | cons d r => exact absurd rfl (h.noZero d r)
  · rintro rfl
    rfl

/-! ### Parts of a number -/

/-- A part of a number has a mark and is written, or else is left out. -/
def TakesPart {α : Type} (s : List Char) (part : Option α) (r : List Char) : Prop :=
  ∃ t, s = t ++ r ∧ t.any isMark = part.isSome ∧ (part = none → t = [])

theorem TakesPart.none {α : Type} (s : List Char) : TakesPart s (none : Option α) s :=
  ⟨[], rfl, rfl, fun _ => rfl⟩

theorem TakesPart.some {α : Type} {c : Char} (hc : isMark c = true) (t r : List Char) (a : α) :
    TakesPart (c :: t ++ r) (some a) r :=
  ⟨c :: t, rfl, by simp [hc], fun h => by cases h⟩

theorem takesPart_fraction {s r : List Char} {o : Option (List Char)}
    (h : fractionDigits? s = some (o, r)) : TakesPart s o r := by
  unfold fractionDigits? at h
  split at h
  · split at h
    · cases h
    · rename_i htake
      cases h
      obtain ⟨rfl, -⟩ := takeDigits_eq htake
      exact TakesPart.some (c := '.') rfl _ r _
  · cases h
    exact TakesPart.none s

theorem takeSign_eq (s : List Char) : ∃ t, s = t ++ (takeSign s).2 := by
  unfold takeSign
  split
  · exact ⟨['-'], rfl⟩
  · exact ⟨['+'], rfl⟩
  · exact ⟨[], rfl⟩

theorem takesPart_exponent {s r : List Char} {o : Option (Bool × List Char)}
    (h : exponentDigits? s = some (o, r)) : TakesPart s o r := by
  unfold exponentDigits? at h
  split at h
  · rename_i c s'
    split at h
    · rename_i hmark
      obtain ⟨sign, hsign⟩ := takeSign_eq s'
      dsimp only at h
      split at h
      · cases h
      · rename_i htake
        cases h
        obtain ⟨hrest, -⟩ := takeDigits_eq htake
        rw [hsign, hrest, ← List.append_assoc]
        exact TakesPart.some (by simp [isMark, hmark]) _ r _
    · cases h
      exact TakesPart.none _
  · cases h
    exact TakesPart.none []

/-! ### Numbers -/

def BeginsNumber (s : List Char) : Prop :=
  ∃ c r, s = c :: r ∧ (c = '-' ∨ c.isDigit = true)

structure Digits.Spells (d : Digits) (t : List Char) : Prop where
  whole : IsWhole d.whole
  first : BeginsNumber t
  marked : t.any isMark = (d.fraction.isSome || d.exponent.isSome)
  plain : d.fraction = none → d.exponent = none →
    t = (if d.negative then ['-'] else []) ++ d.whole

theorem digits_eq_some {s r : List Char} {d : Digits} (h : digits s = some (d, r)) :
    ∃ t, s = t ++ r ∧ d.Spells t := by
  unfold digits at h
  split at h
  rename_i negative r₀ hsign
  have hs : s = (if negative then ['-'] else []) ++ r₀ := by
    split at hsign <;> cases hsign <;> rfl
  split at h
  · cases h
  rename_i whole r₁ hwhole
  split at h
  · cases h
  rename_i fraction r₂ hfraction
  split at h
  · cases h
  rename_i exponent r₃ hexponent
  cases h
  obtain ⟨rfl, hdigits⟩ := wholeDigits?_eq_some hwhole
  obtain ⟨f, rfl, hf, hfnil⟩ := takesPart_fraction hfraction
  obtain ⟨x, rfl, hx, hxnil⟩ := takesPart_exponent hexponent
  refine ⟨(if negative then ['-'] else []) ++ whole ++ f ++ x, by simp [hs], hdigits, ?_, ?_, ?_⟩
  · obtain ⟨c, ds, rfl⟩ := List.exists_cons_of_ne_nil hdigits.ne_nil
    cases negative with
    | true => exact ⟨'-', _, rfl, .inl rfl⟩
    | false => exact ⟨c, _, rfl, .inr (hdigits.isDigit c List.mem_cons_self)⟩
  · have hsigned : (if negative then ['-'] else []).any isMark = false := by
      cases negative <;> rfl
    rw [List.any_append, List.any_append, List.any_append, hsigned,
      any_isMark_of_isDigit hdigits.isDigit, hf, hx]
    rfl
  · intro hnof hnox
    rw [hfnil hnof, hxnil hnox, List.append_nil, List.append_nil]

theorem Digits.Spells.unmarked_iff {d : Digits} {t : List Char} (h : d.Spells t) :
    t.any isMark = false ↔ d.fraction = none ∧ d.exponent = none := by
  rw [h.marked, Bool.or_eq_false_iff, Option.isSome_eq_false_iff, Option.isSome_eq_false_iff,
    Option.isNone_iff_eq_none, Option.isNone_iff_eq_none]

theorem wholeOf_signed (negative : Bool) {ds : List Char} (h : ∀ c ∈ ds, c.isDigit = true) :
    wholeOf ((if negative then ['-'] else []) ++ ds) =
      if negative then -(valueOf ds : Int) else valueOf ds := by
  cases negative with
  | true => rfl
  | false =>
    cases ds with
    | nil => rfl
    | cons c r =>
      have hc : c ≠ '-' := by
        rintro rfl
        cases h '-' List.mem_cons_self
      simp only [Bool.false_eq_true, if_false, List.nil_append]
      unfold wholeOf
      split
      · rename_i heq
        exact absurd (List.cons.inj heq).1 hc
      · rfl

namespace Digits.Spells
variable {d : Digits} {t : List Char}

section Plain
variable (h : d.Spells t) (hfraction : d.fraction = none) (hexponent : d.exponent = none)
include h hfraction hexponent

theorem wholeOf_eq :
    wholeOf t = if d.negative then -(valueOf d.whole : Int) else valueOf d.whole := by
  rw [h.plain hfraction hexponent]
  exact wholeOf_signed d.negative h.whole.isDigit

theorem eq_minusZero_iff : t = ['-', '0'] ↔ d.negative = true ∧ valueOf d.whole = 0 := by
  rw [h.plain hfraction hexponent, h.whole.valueOf_eq_zero_iff]
  cases d.negative with
  | true => simp
  | false =>
    simp only [Bool.false_eq_true, if_false, List.nil_append, false_and, iff_false]
    intro hwhole
    cases h.whole.isDigit '-' (by simp [hwhole])

end Plain

theorem isWord_iff (h : d.Spells t) :
    IsWord t ↔ d.fraction = none ∧ d.exponent = none ∧
      if d.negative then 0 < valueOf d.whole ∧ valueOf d.whole ≤ Nat.pow 2 63
      else valueOf d.whole ≤ wordLimit := by
  have hlow : int64Low = -9223372036854775808 := rfl
  have hhigh : uint64High = 18446744073709551615 := rfl
  have hlimit : wordLimit = 18446744073709551615 := rfl
  have hpow : Nat.pow 2 63 = 9223372036854775808 := rfl
  constructor
  · rintro ⟨hunmarked, hzero, hlower, hupper⟩
    obtain ⟨hfraction, hexponent⟩ := h.unmarked_iff.1 hunmarked
    rw [h.wholeOf_eq hfraction hexponent] at hlower hupper
    rw [ne_eq, h.eq_minusZero_iff hfraction hexponent] at hzero
    refine ⟨hfraction, hexponent, ?_⟩
    split_ifs at hlower hupper hzero ⊢ with hneg
    · have hne : valueOf d.whole ≠ 0 := fun hvalue => hzero ⟨hneg, hvalue⟩
      omega
    · omega
  · rintro ⟨hfraction, hexponent, hsize⟩
    refine ⟨h.unmarked_iff.2 ⟨hfraction, hexponent⟩, ?_, ?_, ?_⟩
    · rw [ne_eq, h.eq_minusZero_iff hfraction hexponent]
      rintro ⟨hneg, hvalue⟩
      rw [if_pos hneg, hvalue] at hsize
      exact Nat.lt_irrefl 0 hsize.1
    all_goals
      rw [h.wholeOf_eq hfraction hexponent]
      split_ifs at hsize ⊢ <;> omega

end Digits.Spells

def Digits.double? (d : Digits) : Option Float :=
  d.size?.map fun x => if d.negative then -x else x

namespace Digits.Spells
variable {d : Digits} {t : List Char} (h : d.Spells t)
include h

theorem number?_of_isWord (ht : IsWord t) : d.number? = some (.integer (wholeOf t)) := by
  obtain ⟨hfraction, hexponent, hsize⟩ := h.isWord_iff.1 ht
  rw [h.wholeOf_eq hfraction hexponent]
  unfold Digits.number?
  cases hneg : d.negative with
  | true =>
    rw [hneg, if_pos rfl] at hsize
    simp [hfraction, hexponent, hsize]
  | false =>
    rw [hneg, if_neg Bool.false_ne_true] at hsize
    simp [hfraction, hexponent, hsize]

theorem number?_of_not_isWord (ht : ¬ IsWord t) :
    d.number? = d.double?.map .double := by
  rw [h.isWord_iff] at ht
  unfold Digits.number?
  rw [if_neg, if_neg, Digits.double?, Option.map_map]
  · rfl
  · rintro ⟨hfraction, hexponent, hneg, hsize⟩
    refine ht ⟨Option.isNone_iff_eq_none.1 hfraction, Option.isNone_iff_eq_none.1 hexponent, ?_⟩
    rwa [if_pos hneg]
  · rintro ⟨hfraction, hexponent, hneg, hsize⟩
    refine ht ⟨Option.isNone_iff_eq_none.1 hfraction, Option.isNone_iff_eq_none.1 hexponent, ?_⟩
    rwa [if_neg (by simpa using hneg)]

end Digits.Spells

theorem number_eq_some {s r : List Char} {n : Number} (h : number s = some (n, r)) :
    ∃ t, s = t ++ r ∧ (IsWord t ∧ n = .integer (wholeOf t) ∨
      ¬ IsWord t ∧ ∃ x, n = .double x) := by
  unfold number at h
  cases hd : digits s with
  | none =>
    rw [hd] at h
    cases h
  | some p =>
    obtain ⟨d, rest⟩ := p
    obtain ⟨t, hs, ht⟩ := digits_eq_some hd
    obtain ⟨m, hm, hmr⟩ := Option.map_eq_some_iff.1 (hd ▸ h)
    cases hmr
    refine ⟨t, hs, ?_⟩
    by_cases hword : IsWord t
    · rw [ht.number?_of_isWord hword] at hm
      exact .inl ⟨hword, (Option.some.inj hm).symm⟩
    · rw [ht.number?_of_not_isWord hword] at hm
      obtain ⟨x, -, hx⟩ := Option.map_eq_some_iff.1 hm
      exact .inr ⟨hword, x, hx.symm⟩

/-! ### Values that are numbers -/

theorem beginsNumber_of_number {s : List Char} {p : Number × List Char}
    (h : number s = some p) : BeginsNumber s := by
  unfold number at h
  cases hd : digits s with
  | none =>
    rw [hd] at h
    cases h
  | some q =>
    obtain ⟨t, rfl, ht⟩ := digits_eq_some hd
    obtain ⟨c, r, rfl, hc⟩ := ht.first
    exact ⟨c, r ++ q.2, rfl, hc⟩

namespace BeginsNumber
variable {s : List Char} (hs : BeginsNumber s)
include hs

theorem value_eq (depth : Nat) :
    value depth s = (number s).map fun p => (.number p.1, p.2) := by
  obtain ⟨c, r, rfl, hc⟩ := hs
  have hbrace : isOpenBrace c = false := by
    rcases hc with rfl | hc
    · rfl
    · exact beq_false_of_ne (by rintro rfl; cases hc)
  unfold value
  dsimp only
  split
  iterate 5 exact absurd hc (by decide)
  rw [hbrace, if_neg Bool.false_ne_true]

theorem skipSpace_eq : skipSpace s = s := by
  obtain ⟨c, r, rfl, hc⟩ := hs
  refine List.dropWhile_cons_of_neg ?_
  rcases hc with rfl | hc
  · decide
  · intro hspace
    simp only [isSpace, Bool.or_eq_true, beq_iff_eq] at hspace
    rcases hspace with ((rfl | rfl) | rfl) | rfl <;> cases hc

end BeginsNumber

theorem number_of_value {depth : Nat} {s r : List Char} {n : Number}
    (h : value depth s = some (.number n, r)) : number s = some (n, r) := by
  cases s with
  | nil =>
    unfold value at h
    cases h
  | cons c t =>
    unfold value at h
    dsimp only at h
    split at h
    · simp [constant] at h
    · simp [constant] at h
    · simp [constant] at h
    · simp at h
    · cases depth <;> simp at h
    · split at h
      · cases depth <;> simp at h
      · obtain ⟨p, hp, heq⟩ := Option.map_eq_some_iff.1 h
        cases heq
        exact hp

end ConditionRegistry.Json
