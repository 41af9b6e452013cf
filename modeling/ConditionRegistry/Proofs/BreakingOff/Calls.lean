import ConditionRegistry.Language.Eval

set_option autoImplicit false

/-!
# When calls break off

Three functions can break off on values: a part of bytes that is empty cannot be looked for, a
timestamp may have no new year, and the parts of a duration may have no sum. Any other call breaks
off only where one of its operands does that it comes to.
-/

namespace ConditionRegistry.Language

section Outcomes
variable {α β : Type}

@[simp] theorem ok_ne_breaksOff (a : α) : (.ok a : Except (Stop RunFault) α) ≠ breaksOff := by
  intro h
  cases h

@[simp] theorem fails_ne_breaksOff (f : RunFault) : fails (α := α) f ≠ breaksOff := by
  intro h
  cases h

theorem bind_eq_breaksOff_iff {x : Except (Stop RunFault) α} {f : α → Except (Stop RunFault) β} :
    x >>= f = breaksOff ↔ x = breaksOff ∨ ∃ a, x = .ok a ∧ f a = breaksOff := by
  cases x with
  | error s =>
    cases s with
    | fault f => simp [bind, Except.bind, breaksOff]
    | broken => simp [bind, Except.bind, breaksOff]
  | ok a => simp [bind, Except.bind]

theorem bind_eq_breaksOff_iff_left {x : Except (Stop RunFault) α}
    {f : α → Except (Stop RunFault) β} (hf : ∀ a, f a ≠ breaksOff) :
    x >>= f = breaksOff ↔ x = breaksOff := by
  simp [bind_eq_breaksOff_iff, hf]

end Outcomes

/-! ### Operations that never break off -/

theorem keyOf_ne_breaksOff (v : Value) : keyOf v ≠ breaksOff := by
  unfold keyOf
  split <;> simp

theorem fieldOf_ne_breaksOff (v : Value) (name : String) : fieldOf v name ≠ breaksOff := by
  unfold fieldOf
  dsimp only
  split
  · simp
  · split <;> simp

theorem negateValue_ne_breaksOff (v : Value) : negateValue v ≠ breaksOff := by
  unfold negateValue
  split <;> simp

theorem anyValue_ne_breaksOff (v : Value) : anyValue v ≠ breaksOff := ok_ne_breaksOff v

theorem stringOf_ne_breaksOff (v : Value) : stringOf v ≠ breaksOff := by
  unfold stringOf
  split <;> simp

theorem instantOf_ne_breaksOff (v : Value) : instantOf v ≠ breaksOff := by
  unfold instantOf
  split <;> simp

theorem sizeOfValue_ne_breaksOff (v : Value) : sizeOfValue v ≠ breaksOff := by
  unfold sizeOfValue
  split <;> simp

theorem toText_ne_breaksOff (v : Value) : toText v ≠ breaksOff := by
  unfold toText
  split <;> simp [cannotConvert]

theorem toDouble_ne_breaksOff (v : Value) : toDouble v ≠ breaksOff := by
  unfold toDouble
  split
  · split <;> simp [parseFault]
  all_goals simp [cannotConvert]

theorem toInt_ne_breaksOff (v : Value) : toInt v ≠ breaksOff := by
  unfold toInt
  split
  · split <;> simp [parseFault]
  · split <;> simp
  · simp
  · split <;> simp
  · simp [cannotConvert]

theorem toUint_ne_breaksOff (v : Value) : toUint v ≠ breaksOff := by
  unfold toUint
  split
  · split <;> simp [parseFault]
  · split <;> simp
  · split <;> simp
  · simp
  · simp [cannotConvert]

theorem timestampOfText_ne_breaksOff (s : List Char) : timestampOfText s ≠ breaksOff := by
  unfold timestampOfText
  split <;> simp

theorem durationOfText_eq_breaksOff_iff (s : List Char) :
    durationOfText s = breaksOff ↔ Calendar.Duration.ofText? s = some none := by
  unfold durationOfText
  split <;> simp_all

theorem matchesPattern_ne_breaksOff (s pattern : List Char) :
    matchesPattern s pattern ≠ breaksOff := by
  unfold matchesPattern
  split <;> simp

theorem extreme_ne_breaksOff (keep : Ordering) (best : Value) (vs : List Value) :
    extreme keep best vs ≠ breaksOff := by
  induction vs generalizing best with
  | nil => simp [extreme]
  | cons v r ih =>
    unfold extreme
    split
    · exact ih _
    · simp

theorem extremeOf_ne_breaksOff (keep : Ordering) (vs : List Value) :
    extremeOf keep vs ≠ breaksOff := by
  unfold extremeOf
  split <;> simp [extreme_ne_breaksOff]

theorem indexValue_ne_breaksOff (v i : Value) : indexValue v i ≠ breaksOff := by
  unfold indexValue
  split
  · simp
  · simp
  · split <;> simp
  all_goals simp

theorem ordered_ne_breaksOff (a b : Value) (test : Ordering → Bool) :
    ordered a b test ≠ breaksOff := by
  unfold ordered
  split <;> simp

theorem Relation.apply_ne_breaksOff (r : Relation) (a b : Value) : r.apply a b ≠ breaksOff := by
  cases r with
  | equal => simp [Relation.apply]
  | notEqual => simp [Relation.apply]
  | member =>
    simp only [Relation.apply]
    unfold isMember
    split <;> simp
  | _ => exact ordered_ne_breaksOff _ _ _

section Arithmetic
variable (op : ArithmeticOp)

theorem intResult_ne_breaksOff (a b : Int64) (n : Int) : intResult op a b n ≠ breaksOff := by
  unfold intResult
  split <;> simp

theorem uintResult_ne_breaksOff (a b : UInt64) (n : Int) : uintResult op a b n ≠ breaksOff := by
  unfold uintResult
  split <;> simp

theorem durationResult_ne_breaksOff (a b : Calendar.Duration) (d : Option Calendar.Duration) :
    durationResult op a b d ≠ breaksOff := by
  unfold durationResult
  split <;> simp

theorem instantResult_ne_breaksOff (a b : Value) (t : Calendar.Instant) :
    instantResult op a b t ≠ breaksOff := by
  unfold instantResult
  split <;> simp

theorem ArithmeticOp.apply_ne_breaksOff (here : Origin) (a b : Value) :
    op.apply here a b ≠ breaksOff := by
  have hint := intResult_ne_breaksOff
  have huint := uintResult_ne_breaksOff
  cases op with
  | plus =>
    rw [ArithmeticOp.apply]
    unfold addValues
    split <;> simp [hint, huint, durationResult_ne_breaksOff, instantResult_ne_breaksOff]
  | minus =>
    rw [ArithmeticOp.apply]
    unfold subValues
    split <;> simp [hint, huint, durationResult_ne_breaksOff, instantResult_ne_breaksOff]
  | times =>
    rw [ArithmeticOp.apply]
    unfold mulValues
    split <;> simp [hint, huint]
  | divide =>
    rw [ArithmeticOp.apply]
    unfold divValues
    split
    · split <;> simp [hint]
    · split <;> simp
    all_goals simp
  | modulo =>
    rw [ArithmeticOp.apply]
    unfold remValues
    split
    · split
      · simp
      · split <;> simp [hint]
    · split <;> simp
    · simp

end Arithmetic

theorem BinaryOp.apply_ne_breaksOff (here : Origin) (op : BinaryOp) (a b : Value) :
    op.apply here a b ≠ breaksOff := by
  cases op with
  | arithmetic op => exact op.apply_ne_breaksOff here a b
  | relation r => exact r.apply_ne_breaksOff a b
  | index => exact indexValue_ne_breaksOff a b

/-! ### Arguments -/

theorem mapM_id_eq_breaksOff_iff (rs : List Result) :
    rs.mapM id = breaksOff ↔
      ∃ i : Nat, rs[i]? = some breaksOff ∧ ∀ j < i, ∃ v, rs[j]? = some (.ok v) := by
  induction rs with
  | nil => simp [pure, Except.pure]
  | cons r rs ih =>
    have hstep : (r :: rs).mapM id = r >>= fun v => rs.mapM id >>= fun vs => .ok (v :: vs) :=
      List.mapM_cons
    rw [hstep, bind_eq_breaksOff_iff]
    constructor
    · rintro (hr | ⟨v, rfl, hrest⟩)
      · exact ⟨0, congrArg some hr, fun j hj => absurd hj (Nat.not_lt_zero j)⟩
      · rw [bind_eq_breaksOff_iff_left fun _ => ok_ne_breaksOff _, ih] at hrest
        obtain ⟨i, hi, hbefore⟩ := hrest
        refine ⟨i + 1, hi, fun j hj => ?_⟩
        cases j with
        | zero => exact ⟨v, rfl⟩
        | succ j => exact hbefore j (by omega)
    · rintro ⟨i, hi, hbefore⟩
      cases i with
      | zero => exact .inl (Option.some.inj hi)
      | succ i =>
        obtain ⟨v, hv⟩ := hbefore 0 (by omega)
        refine .inr ⟨v, Option.some.inj hv, ?_⟩
        rw [bind_eq_breaksOff_iff_left fun _ => ok_ne_breaksOff _, ih]
        exact ⟨i, hi, fun j hj => hbefore (j + 1) (by omega)⟩

namespace Call
variable (c : Call)

theorem arg_eq_breaksOff_iff (i : Nat) : c.arg i = breaksOff ↔ c.args[i]? = some breaksOff := by
  unfold arg
  cases c.args[i]? <;> simp

theorem arg_eq_ok_iff (i : Nat) (v : Value) : c.arg i = .ok v ↔ c.args[i]? = some (.ok v) := by
  unfold arg
  cases c.args[i]? <;> simp [fails]

theorem subject_eq_breaksOff_iff {α : Type} {read : Value → Except (Stop RunFault) α}
    (hread : ∀ v, read v ≠ breaksOff) :
    c.subject read = breaksOff ↔ c.target = none ∧ c.args[0]? = some breaksOff := by
  unfold subject
  cases c.target with
  | some v => simp [hread]
  | none =>
    rw [← arg_eq_breaksOff_iff]
    cases c.arg 0 with
    | ok v => simp [hread]
    | error s => cases s <;> simp [breaksOff, fails]

theorem subject_anyValue_eq_ok_iff (v : Value) :
    c.subject anyValue = .ok v ↔
      c.target = some v ∨ c.target = none ∧ c.args[0]? = some (.ok v) := by
  unfold subject
  cases c.target with
  | some w => simp [anyValue]
  | none =>
    rw [← arg_eq_ok_iff]
    cases c.arg 0 with
    | ok w => simp [anyValue]
    | error s => cases s <;> simp [breaksOff, fails]

theorem arg_stringOf_eq_ok_iff (i : Nat) (s : List Char) :
    (c.arg i >>= stringOf) = .ok s ↔
      ∃ t : String, c.args[i]? = some (.ok (.string t)) ∧ t.toList = s := by
  simp only [← arg_eq_ok_iff]
  cases c.arg i with
  | error e => simp [bind, Except.bind]
  | ok v => cases v <;> simp [bind, Except.bind, stringOf, fails]

end Call

theorem containsPart_eq_breaksOff_iff (v w : Value) :
    containsPart v w = breaksOff ↔ ∃ bs, v = .bytes bs ∧ w = .bytes [] := by
  unfold containsPart
  split
  · simp
  · split <;> simp
  · simp
  · split <;> simp_all
  · simp_all

namespace Builtin

def isTest : Builtin → Bool
  | .startsWith | .endsWith | .matches => true
  | _ => false

/-- A function goes on after an operand with such a value. -/
def GoesOn (f : Builtin) (v : Value) : Prop := f.isTest = true → ∃ s, v = .string s

def places (f : Builtin) (c : Call) : List Nat :=
  match f with
  | .max | .min => List.range c.args.length
  | .bytes | .duration | .timestamp => [0]
  | .contains | .startsWith | .endsWith | .matches => if c.target.isSome then [0] else [0, 1]
  | _ => if c.target.isSome then [] else [0]

structure Asks (f : Builtin) (c : Call) (i : Nat) : Prop where
  place : i ∈ f.places c
  target : ∀ v ∈ c.target, f.GoesOn v
  before : ∀ j ∈ f.places c, j < i → ∃ v, c.args[j]? = some (.ok v) ∧ f.GoesOn v

inductive IsFatal : Builtin → Call → Prop
  | contains {c : Call} {bs : List UInt8} (hs : c.subject anyValue = .ok (.bytes bs))
      (hp : c.other = .ok (.bytes [])) : IsFatal .contains c
  | getDayOfYear {c : Call} {t : Calendar.Instant} (ht : c.subject instantOf = .ok t)
      (h : t.newYear.isRepresentable = false) : IsFatal .getDayOfYear c
  /-- the parts of the text have a sum out of range -/
  | duration {c : Call} {s : String} (hs : c.args[0]? = some (.ok (.string s)))
      (h : Calendar.Duration.ofText? s.toList = some none) : IsFatal .duration c

section Asks
variable {f : Builtin} {c : Call}

theorem exists_asks_single_iff (hplaces : f.places c = [0]) (htarget : ∀ v ∈ c.target, f.GoesOn v) :
    (∃ i, f.Asks c i ∧ c.args[i]? = some breaksOff) ↔ c.args[0]? = some breaksOff := by
  constructor
  · rintro ⟨i, hi, hbroken⟩
    have hplace := hi.place
    rw [hplaces, List.mem_singleton] at hplace
    rwa [hplace] at hbroken
  · intro h
    refine ⟨0, ⟨?_, htarget, fun j _ hj => absurd hj (Nat.not_lt_zero j)⟩, h⟩
    simp [hplaces]

theorem exists_asks_subject_iff (hplaces : f.places c = if c.target.isSome then [] else [0]) :
    (∃ i, f.Asks c i ∧ c.args[i]? = some breaksOff) ↔
      c.target = none ∧ c.args[0]? = some breaksOff := by
  cases ht : c.target with
  | none =>
    rw [ht] at hplaces
    rw [exists_asks_single_iff hplaces (by simp [ht])]
    simp
  | some v =>
    rw [ht] at hplaces
    simp only [reduceCtorEq, false_and, iff_false]
    rintro ⟨i, hi, -⟩
    have hplace := hi.place
    rw [hplaces] at hplace
    cases hplace

theorem exists_asks_pair_iff (hplaces : f.places c = if c.target.isSome then [0] else [0, 1]) :
    (∃ i, f.Asks c i ∧ c.args[i]? = some breaksOff) ↔
      (c.target = none ∧ c.args[0]? = some breaksOff) ∨
        (∃ v, c.subject anyValue = .ok v ∧ f.GoesOn v) ∧ c.other = breaksOff := by
  constructor
  · rintro ⟨i, hi, hbroken⟩
    have hplace := hi.place
    cases ht : c.target with
    | none =>
      rw [hplaces, ht] at hplace
      obtain rfl | rfl : i = 0 ∨ i = 1 := by simpa using hplace
      · exact .inl ⟨rfl, hbroken⟩
      · obtain ⟨v, hv, hgo⟩ := hi.before 0 (by simp [hplaces, ht]) Nat.one_pos
        refine .inr ⟨⟨v, (c.subject_anyValue_eq_ok_iff v).2 (.inr ⟨ht, hv⟩), hgo⟩, ?_⟩
        rw [Call.other, ht]
        exact (c.arg_eq_breaksOff_iff 1).2 hbroken
    | some v =>
      rw [hplaces, ht] at hplace
      obtain rfl : i = 0 := by simpa using hplace
      refine .inr ⟨⟨v, (c.subject_anyValue_eq_ok_iff v).2 (.inl ht), hi.target v ht⟩, ?_⟩
      rw [Call.other, ht]
      exact (c.arg_eq_breaksOff_iff 0).2 hbroken
  · rintro (⟨ht, hbroken⟩ | ⟨⟨v, hv, hgo⟩, hother⟩)
    · refine ⟨0, ⟨by simp [hplaces, ht], by simp [ht], fun j _ hj => ?_⟩, hbroken⟩
      exact absurd hj (Nat.not_lt_zero j)
    · obtain ht | ⟨ht, hfirst⟩ := (c.subject_anyValue_eq_ok_iff v).1 hv
      · rw [Call.other, ht] at hother
        refine ⟨0, ⟨by simp [hplaces, ht], ?_, fun j _ hj => absurd hj (Nat.not_lt_zero j)⟩,
          (c.arg_eq_breaksOff_iff 0).1 hother⟩
        rintro w hw
        cases ht.symm.trans hw
        exact hgo
      · rw [Call.other, ht] at hother
        refine ⟨1, ⟨by simp [hplaces, ht], by simp [ht], fun j _ hj => ?_⟩,
          (c.arg_eq_breaksOff_iff 1).1 hother⟩
        obtain rfl : j = 0 := by omega
        exact ⟨v, hfirst, hgo⟩

/-! What a function comes to, by how it looks at its arguments. -/

theorem goesOn_of_not_test (htest : f.isTest = false) (v : Value) : f.GoesOn v := by
  intro h
  rw [htest] at h
  cases h

theorem subject_breaksOff_iff {α : Type} {read : Value → Except (Stop RunFault) α}
    {next : α → Result} (happly : f.apply c = c.subject read >>= next)
    (hplaces : f.places c = if c.target.isSome then [] else [0]) (hfatal : ¬ f.IsFatal c)
    (hread : ∀ v, read v ≠ breaksOff) (hnext : ∀ a, next a ≠ breaksOff) :
    f.apply c = breaksOff ↔ f.IsFatal c ∨ ∃ i, f.Asks c i ∧ c.args[i]? = some breaksOff := by
  rw [happly, bind_eq_breaksOff_iff_left hnext, c.subject_eq_breaksOff_iff hread,
    exists_asks_subject_iff hplaces, or_iff_right hfatal]

theorem first_breaksOff_iff {next : List Char → Result}
    (happly : f.apply c = c.arg 0 >>= stringOf >>= next) (hplaces : f.places c = [0])
    (htest : f.isTest = false) (hfatal : ¬ f.IsFatal c) (hnext : ∀ s, next s ≠ breaksOff) :
    f.apply c = breaksOff ↔ f.IsFatal c ∨ ∃ i, f.Asks c i ∧ c.args[i]? = some breaksOff := by
  rw [happly, bind_eq_breaksOff_iff_left hnext, bind_eq_breaksOff_iff_left stringOf_ne_breaksOff,
    c.arg_eq_breaksOff_iff, exists_asks_single_iff hplaces fun v _ => goesOn_of_not_test htest v,
    or_iff_right hfatal]

theorem duration_breaksOff_iff :
    duration.apply c = breaksOff ↔
      duration.IsFatal c ∨ ∃ i, duration.Asks c i ∧ c.args[i]? = some breaksOff := by
  have hgo := goesOn_of_not_test (f := .duration) rfl
  have happly : duration.apply c = c.arg 0 >>= stringOf >>= durationOfText := rfl
  rw [happly, bind_eq_breaksOff_iff, bind_eq_breaksOff_iff_left stringOf_ne_breaksOff,
    c.arg_eq_breaksOff_iff, exists_asks_single_iff rfl fun v _ => hgo v, or_comm]
  refine or_congr_left ⟨?_, ?_⟩
  · rintro ⟨s, hs, hbroken⟩
    obtain ⟨t, ht, rfl⟩ := (c.arg_stringOf_eq_ok_iff 0 s).1 hs
    exact .duration ht ((durationOfText_eq_breaksOff_iff _).1 hbroken)
  · intro hfatal
    cases hfatal with
    | duration hs h =>
      exact ⟨_, (c.arg_stringOf_eq_ok_iff 0 _).2 ⟨_, hs, rfl⟩,
        (durationOfText_eq_breaksOff_iff _).2 h⟩

theorem all_breaksOff_iff {next : List Value → Result} (happly : f.apply c = c.all >>= next)
    (hplaces : f.places c = List.range c.args.length) (htest : f.isTest = false)
    (hfatal : ¬ f.IsFatal c) (hnext : ∀ vs, next vs ≠ breaksOff) :
    f.apply c = breaksOff ↔ f.IsFatal c ∨ ∃ i, f.Asks c i ∧ c.args[i]? = some breaksOff := by
  have hgo := goesOn_of_not_test htest
  rw [happly, bind_eq_breaksOff_iff_left hnext, Call.all, mapM_id_eq_breaksOff_iff,
    or_iff_right hfatal]
  constructor
  · rintro ⟨i, hi, hbefore⟩
    obtain ⟨hlt, -⟩ := List.getElem?_eq_some_iff.1 hi
    refine ⟨i, ⟨by simpa [hplaces] using hlt, fun v _ => hgo v, fun j _ hj => ?_⟩, hi⟩
    obtain ⟨v, hv⟩ := hbefore j hj
    exact ⟨v, hv, hgo v⟩
  · rintro ⟨i, hi, hbroken⟩
    refine ⟨i, hbroken, fun j hj => ?_⟩
    have hlt : i < c.args.length := by simpa [hplaces] using hi.place
    obtain ⟨v, hv, -⟩ := hi.before j (by simpa [hplaces] using Nat.lt_trans hj hlt) hj
    exact ⟨v, hv⟩

theorem subject_stringOf_eq_ok_iff (s : List Char) :
    c.subject stringOf = .ok s ↔ ∃ v, c.subject anyValue = .ok v ∧ stringOf v = .ok s := by
  unfold Call.subject
  cases c.target with
  | some v => simp [anyValue]
  | none =>
    cases c.arg 0 with
    | ok v => simp [anyValue]
    | error s => cases s <;> simp [breaksOff, fails]

theorem test_breaksOff_iff {next : List Char → List Char → Result}
    (happly : f.apply c = c.test next)
    (hplaces : f.places c = if c.target.isSome then [0] else [0, 1]) (htest : f.isTest = true)
    (hfatal : ¬ f.IsFatal c) (hnext : ∀ s p, next s p ≠ breaksOff) :
    f.apply c = breaksOff ↔ f.IsFatal c ∨ ∃ i, f.Asks c i ∧ c.args[i]? = some breaksOff := by
  have hgo : ∀ v, f.GoesOn v ↔ ∃ s, stringOf v = .ok s := by
    intro v
    cases v <;> simp [GoesOn, htest, stringOf, fails]
  have hrest : ∀ s, (c.other >>= stringOf >>= next s) = breaksOff ↔ c.other = breaksOff := by
    intro s
    rw [bind_eq_breaksOff_iff_left (hnext s), bind_eq_breaksOff_iff_left stringOf_ne_breaksOff]
  rw [happly, Call.test, bind_eq_breaksOff_iff, c.subject_eq_breaksOff_iff stringOf_ne_breaksOff,
    exists_asks_pair_iff hplaces, or_iff_right hfatal]
  refine or_congr_right ⟨?_, ?_⟩
  · rintro ⟨s, hs, hother⟩
    obtain ⟨v, hv, hvs⟩ := (subject_stringOf_eq_ok_iff s).1 hs
    exact ⟨⟨v, hv, (hgo v).2 ⟨s, hvs⟩⟩, (hrest s).1 hother⟩
  · rintro ⟨⟨v, hv, hvs⟩, hother⟩
    obtain ⟨s, hs⟩ := (hgo v).1 hvs
    exact ⟨s, (subject_stringOf_eq_ok_iff s).2 ⟨v, hv, hs⟩, (hrest s).2 hother⟩

theorem contains_breaksOff_iff :
    contains.apply c = breaksOff ↔
      contains.IsFatal c ∨ ∃ i, contains.Asks c i ∧ c.args[i]? = some breaksOff := by
  have hgo := goesOn_of_not_test (f := .contains) rfl
  have happly : contains.apply c =
    c.subject anyValue >>= fun v => c.other >>= containsPart v := rfl
  rw [happly, bind_eq_breaksOff_iff, c.subject_eq_breaksOff_iff anyValue_ne_breaksOff,
    exists_asks_pair_iff rfl]
  constructor
  · rintro (hfirst | ⟨v, hv, hrest⟩)
    · exact .inr (.inl hfirst)
    · obtain hother | ⟨w, hw, hpart⟩ := bind_eq_breaksOff_iff.1 hrest
      · exact .inr (.inr ⟨⟨v, hv, hgo v⟩, hother⟩)
      · obtain ⟨bs, rfl, rfl⟩ := (containsPart_eq_breaksOff_iff v w).1 hpart
        exact .inl (.contains hv hw)
  · rintro (hfatal | hfirst | ⟨⟨v, hv, -⟩, hother⟩)
    · cases hfatal with
      | contains hs hp => exact .inr ⟨_, hs, bind_eq_breaksOff_iff.2 (.inr ⟨_, hp, rfl⟩)⟩
    · exact .inl hfirst
    · exact .inr ⟨v, hv, bind_eq_breaksOff_iff.2 (.inl hother)⟩

theorem getDayOfYear_breaksOff_iff :
    getDayOfYear.apply c = breaksOff ↔
      getDayOfYear.IsFatal c ∨ ∃ i, getDayOfYear.Asks c i ∧ c.args[i]? = some breaksOff := by
  have happly : getDayOfYear.apply c = c.subject instantOf >>= fun t =>
    if t.newYear.isRepresentable then .ok (.int (Int64.ofNat t.date.dayOfYear)) else breaksOff :=
      rfl
  rw [happly, bind_eq_breaksOff_iff, c.subject_eq_breaksOff_iff instantOf_ne_breaksOff,
    exists_asks_subject_iff rfl, or_comm]
  refine or_congr_left ⟨?_, ?_⟩
  · rintro ⟨t, ht, hbroken⟩
    refine .getDayOfYear ht ?_
    cases hyear : t.newYear.isRepresentable with
    | false => rfl
    | true => simp [hyear] at hbroken
  · intro hfatal
    cases hfatal with
    | getDayOfYear ht hyear => exact ⟨_, ht, by simp [hyear]⟩

end Asks

theorem apply_eq_breaksOff_iff (f : Builtin) (c : Call) :
    f.apply c = breaksOff ↔ f.IsFatal c ∨ ∃ i, f.Asks c i ∧ c.args[i]? = some breaksOff := by
  have hok : ∀ v : Value, (.ok v : Result) ≠ breaksOff := fun v => ok_ne_breaksOff v
  cases f with
  | contains => exact contains_breaksOff_iff
  | getDayOfYear => exact getDayOfYear_breaksOff_iff
  | max => exact all_breaksOff_iff rfl rfl rfl nofun (extremeOf_ne_breaksOff _)
  | min => exact all_breaksOff_iff rfl rfl rfl nofun (extremeOf_ne_breaksOff _)
  | startsWith => exact test_breaksOff_iff rfl rfl rfl nofun fun _ _ => hok _
  | endsWith => exact test_breaksOff_iff rfl rfl rfl nofun fun _ _ => hok _
  | «matches» => exact test_breaksOff_iff rfl rfl rfl nofun matchesPattern_ne_breaksOff
  | bytes => exact first_breaksOff_iff rfl rfl rfl nofun fun _ => hok _
  | duration => exact duration_breaksOff_iff
  | timestamp => exact first_breaksOff_iff rfl rfl rfl nofun timestampOfText_ne_breaksOff
  | size => exact subject_breaksOff_iff rfl rfl nofun anyValue_ne_breaksOff sizeOfValue_ne_breaksOff
  | string => exact subject_breaksOff_iff rfl rfl nofun anyValue_ne_breaksOff toText_ne_breaksOff
  | double => exact subject_breaksOff_iff rfl rfl nofun anyValue_ne_breaksOff toDouble_ne_breaksOff
  | int => exact subject_breaksOff_iff rfl rfl nofun anyValue_ne_breaksOff toInt_ne_breaksOff
  | uint => exact subject_breaksOff_iff rfl rfl nofun anyValue_ne_breaksOff toUint_ne_breaksOff
  | _ => exact subject_breaksOff_iff rfl rfl nofun instantOf_ne_breaksOff fun _ => hok _

end Builtin

/-! ### Calls by name -/

/-- A call by name comes to the argument at a place, once it has its function. -/
structure CallAsks (f : String) (first : Except (Stop RunFault) Unit) (target : Option Result)
    (args : List Result) (i : Nat) : Prop where
  first : first = .ok ()
  asks : ∃ b v, Builtin.named? f = some b ∧ target = v.map .ok ∧ b.Asks ⟨v, args⟩ i

def CallsTarget (f : String) (first : Except (Stop RunFault) Unit) : Prop :=
  first = .ok () ∧ (Builtin.named? f).isSome = true

def CallIsFatal (f : String) (first : Except (Stop RunFault) Unit) (target : Option Result)
    (args : List Result) : Prop :=
  first = .ok () ∧ ∃ b v, Builtin.named? f = some b ∧ target = v.map .ok ∧ b.IsFatal ⟨v, args⟩

section Named
variable {f : String} {first : Except (Stop RunFault) Unit} {target : Option Result}
  {args : List Result}

theorem callFunction_eq_apply {b : Builtin} {v : Option Value} (hfirst : first = .ok ())
    (hb : Builtin.named? f = some b) (ht : target = v.map .ok) :
    callFunction f first target args = b.apply ⟨v, args⟩ := by
  subst hfirst ht
  unfold callFunction
  rw [hb]
  cases v <;> rfl

theorem callFunction_of_target (h : CallsTarget f first) :
    callFunction f first (some breaksOff) args = breaksOff := by
  obtain ⟨b, hb⟩ := Option.isSome_iff_exists.1 h.2
  unfold callFunction
  rw [h.1, hb]
  rfl

theorem cases_of_apply {b : Builtin} {v : Option Value} (hfirst : first = .ok ())
    (hb : Builtin.named? f = some b) (ht : target = v.map .ok)
    (h : callFunction f first target args = breaksOff) :
    CallIsFatal f first target args ∨
      ∃ i, CallAsks f first target args i ∧ args[i]? = some breaksOff := by
  rw [callFunction_eq_apply hfirst hb ht, Builtin.apply_eq_breaksOff_iff] at h
  obtain hfatal | ⟨i, hi, hbroken⟩ := h
  · exact .inl ⟨hfirst, b, v, hb, ht, hfatal⟩
  · exact .inr ⟨i, ⟨hfirst, b, v, hb, ht, hi⟩, hbroken⟩

/-- A call by name breaks off on its values, or where something does that it comes to: the operand
    that is met before the function is looked up, the target, or an argument. -/
theorem callFunction_eq_breaksOff_iff :
    callFunction f first target args = breaksOff ↔
      CallIsFatal f first target args ∨ first = breaksOff ∨
        (CallsTarget f first ∧ target = some breaksOff) ∨
        ∃ i, CallAsks f first target args i ∧ args[i]? = some breaksOff := by
  constructor
  · intro h
    have hcall := h
    unfold callFunction at hcall
    obtain hfirst | ⟨⟨⟩, hfirst, hcall⟩ := bind_eq_breaksOff_iff.1 hcall
    · exact .inr (.inl hfirst)
    · cases hb : Builtin.named? f with
      | none => simp [hb] at hcall
      | some b =>
        cases target with
        | none =>
          exact (cases_of_apply hfirst hb (v := none) rfl h).imp_right fun h => .inr (.inr h)
        | some t =>
          rw [hb] at hcall
          obtain ht | ⟨v, rfl, -⟩ := bind_eq_breaksOff_iff.1 hcall
          · exact .inr (.inr (.inl ⟨⟨hfirst, by rw [hb]; rfl⟩, congrArg some ht⟩))
          · exact (cases_of_apply hfirst hb (v := some v) rfl h).imp_right fun h => .inr (.inr h)
  · rintro (⟨hfirst, b, v, hb, ht, hfatal⟩ | rfl | ⟨htarget, rfl⟩ |
      ⟨i, ⟨hfirst, b, v, hb, ht, hi⟩, hbroken⟩)
    · rw [callFunction_eq_apply hfirst hb ht, Builtin.apply_eq_breaksOff_iff]
      exact .inl hfatal
    · rfl
    · exact callFunction_of_target htarget
    · rw [callFunction_eq_apply hfirst hb ht, Builtin.apply_eq_breaksOff_iff]
      exact .inr ⟨i, hi, hbroken⟩

end Named

end ConditionRegistry.Language
