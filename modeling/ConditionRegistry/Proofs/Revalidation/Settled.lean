import ConditionRegistry.Proofs.Guards
import ConditionRegistry.Proofs.Revalidation.Lead

set_option autoImplicit false

/-!
# Settled texts

A text is settled for a keyword if the keyword stands between spaces right after its operator only.
That is how a replacement leaves a text, since the space after a keyword that has been replaced is
not looked at again; and neither the other replacement nor the removal of white space at the ends
changes it.
-/

namespace ConditionRegistry
open Guard Text

namespace Keyword

/-- `before` is the character before the text. -/
def SettledAfter (k : Keyword) : Option Char → List Char → Prop
  | _, [] => True
  | before, c :: r =>
    (k.spaced <+: c :: r → before = some k.mark) ∧ k.SettledAfter (some c) r

variable {k : Keyword}

theorem SettledAfter.append {w r : List Char} {before : Option Char}
    (h : k.SettledAfter before (w ++ r)) : k.SettledAfter (w.getLast?.or before) r := by
  induction w generalizing before with
  | nil => exact h
  | cons c v ih =>
    rw [getLast?_cons_or]
    exact ih h.2

theorem SettledAfter.of_append {w r : List Char} {before : Option Char}
    (h : k.SettledAfter before (w ++ r)) : k.SettledAfter before w := by
  induction w generalizing before with
  | nil => trivial
  | cons c v ih => exact ⟨fun hp => h.1 (hp.trans (List.prefix_append (c :: v) r)), ih h.2⟩

theorem SettledAfter.before_eq {s : List Char} {before : Option Char}
    (h : k.SettledAfter before s) (hs : k.spaced <+: s) : before = some k.mark := by
  cases s with
  | nil => cases k <;> simp [spaced] at hs
  | cons c r => exact h.1 hs

theorem SettledAfter.of_head {s : List Char} {before : Option Char} (h : k.SettledAfter before s)
    (hs : ¬ k.spaced <+: s) (b : Option Char) : k.SettledAfter b s := by
  cases s with
  | nil => trivial
  | cons c r => exact ⟨fun hp => absurd hp hs, h.2⟩

variable (k)

theorem spaced_eq : k.spaced = ' ' :: (k.word ++ [' ']) := rfl

theorem notMem_word : ' ' ∉ k.word := by
  cases k <;> decide

theorem spaced_isPrefix_cons_iff {s t : List Char} (h : SameLead s t) (c : Char) :
    k.spaced <+: c :: s ↔ k.spaced <+: c :: t := by
  have hw : ' ' ∉ (k.word ++ [' ']).dropLast := by
    rw [List.dropLast_concat]
    exact k.notMem_word
  rw [spaced_eq, List.cons_prefix_cons, List.cons_prefix_cons, h.isPrefix_iff hw]

theorem not_spaced_isPrefix_replace (s : List Char) : ¬ k.spaced <+: k.replace s := by
  induction s using k.reading with
  | nil =>
    rw [k.replace_nil]
    cases k <;> decide
  | spaced r =>
    rw [k.replace_spaced]
    rintro ⟨t, ht⟩
    cases k <;> cases ht
  | cons c r hp =>
    rw [k.replace_cons c r hp, ← k.spaced_isPrefix_cons_iff (k.sameLead_replace r)]
    exact hp

theorem settledAfter_replace_self (before : Option Char) (s : List Char) :
    k.SettledAfter before (k.replace s) := by
  induction s using k.reading generalizing before with
  | nil =>
    rw [k.replace_nil]
    trivial
  | spaced r ih =>
    have hstart := k.not_spaced_isPrefix_replace (k.spaced ++ r)
    rw [k.replace_spaced] at hstart ⊢
    refine ⟨fun hp => absurd hp hstart, fun hp => ?_, fun hp => ?_, fun _ => rfl, ih _⟩
    · exact absurd hp (k.not_spaced_of_ne (by cases k <;> decide) _)
    · exact absurd hp (k.not_spaced_of_ne (by cases k <;> decide) _)
  | cons c r hp ih =>
    have hstart := k.not_spaced_isPrefix_replace (c :: r)
    rw [k.replace_cons c r hp] at hstart ⊢
    exact ⟨fun hp => absurd hp hstart, ih _⟩

/-- The character before a keyword is no letter, so replacing the other keyword keeps it. -/
theorem SettledAfter.replace (j : Keyword) {s : List Char} {before : Option Char}
    (h : k.SettledAfter before s) : k.SettledAfter before (j.replace s) := by
  induction s using j.reading generalizing before with
  | nil =>
    rw [j.replace_nil]
    trivial
  | spaced r ih =>
    have hsplit : j.spaced ++ r = (' ' :: j.word) ++ (' ' :: r) := by
      rw [spaced_eq, List.cons_append, List.cons_append, List.append_assoc]
      rfl
    rw [hsplit] at h
    have hr := h.append
    have hend : ¬ k.spaced <+: ' ' :: j.replace r := by
      rw [← k.spaced_isPrefix_cons_iff (j.sameLead_replace r)]
      intro hp
      have hbefore := hr.1 hp
      cases j <;> cases k <;> cases hbefore
    rw [j.replace_spaced]
    refine ⟨?_, ?_, ?_, fun hp => absurd hp hend, ih hr.2⟩
    · rintro ⟨t, ht⟩
      cases j <;> cases k <;> cases ht
    · exact fun hp => absurd hp (k.not_spaced_of_ne (by cases j <;> decide) _)
    · exact fun hp => absurd hp (k.not_spaced_of_ne (by cases j <;> decide) _)
  | cons c r hp ih =>
    rw [j.replace_cons c r hp]
    refine ⟨fun hp => h.1 ?_, ih h.2⟩
    exact (k.spaced_isPrefix_cons_iff (j.sameLead_replace r) c).2 hp

theorem SettledAfter.trimStart {s : List Char} {before : Option Char}
    (h : k.SettledAfter before s) (b : Option Char) : k.SettledAfter b (trimStart s) := by
  have hstart : ¬ k.spaced <+: Text.trimStart s := by
    rintro ⟨t, ht⟩
    have hblank : isBlank ' ' = false := by
      refine head?_dropWhile (s := s) (c := ' ') ?_
      rw [← Text.trimStart, ← ht]
      rfl
    exact absurd hblank (by decide)
  rw [← List.takeWhile_append_dropWhile (p := isBlank) (l := s)] at h
  exact h.append.of_head hstart b

theorem settledAfter_normalChars (s : List Char) : k.SettledAfter none (normalChars s) := by
  have hreplaced : k.SettledAfter none (Keyword.and.replace (Keyword.or.replace s)) := by
    cases k with
    | or => exact (Keyword.or.settledAfter_replace_self none s).replace _ Keyword.and
    | and => exact Keyword.and.settledAfter_replace_self none _
  obtain ⟨t, ht⟩ := isPrefix_trim (Keyword.and.replace (Keyword.or.replace s))
  have htrim := hreplaced.trimStart k none
  rw [← ht] at htrim
  rw [normalChars_eq]
  exact htrim.of_append

/-! ### The ends of a text -/

theorem getLast?_replace (s : List Char) : (k.replace s).getLast? = s.getLast? := by
  induction s using k.reading with
  | nil => rw [k.replace_nil]
  | spaced r ih =>
    have hblock : (' ' :: k.operator ++ [' ']).getLast? = k.spaced.getLast? := by cases k <;> rfl
    rw [k.replace_spaced_append, List.getLast?_append, hblock, ih, ← List.getLast?_append]
  | cons c r hp ih => rw [k.replace_cons c r hp, List.getLast?_cons, List.getLast?_cons, ih]

theorem isTrimmed_replace {s : List Char} (h : IsTrimmed s) : IsTrimmed (k.replace s) := by
  unfold IsTrimmed
  rw [k.getLast?_replace, ← (k.sameLead_replace s).head?_eq]
  exact h

/-! ### Parts of a text -/

theorem replace_append_cons {c : Char} (hc : c ∉ k.spaced) (u v : List Char) :
    k.replace (u ++ c :: v) = k.replace u ++ c :: k.replace v := by
  have hcons : ∀ v, k.replace (c :: v) = c :: k.replace v := fun v =>
    k.replace_cons c v (k.not_spaced_of_ne (fun h => hc (by rw [h]; exact List.mem_cons_self)) v)
  induction u using k.reading with
  | nil =>
    rw [k.replace_nil]
    exact hcons v
  | spaced r ih =>
    rw [List.append_assoc, k.replace_spaced, k.replace_spaced, ih]
    simp
  | cons d r hp ih =>
    have hkeep : ¬ k.spaced <+: d :: (r ++ c :: v) := by
      intro hlong
      have hshort : d :: r ++ [c] <+: d :: (r ++ c :: v) := ⟨v, by simp⟩
      rcases List.prefix_or_prefix_of_prefix hlong hshort with h | h
      · rcases List.prefix_concat_iff.1 h with h | h
        · exact hc (by rw [h]; simp)
        · exact hp h
      · exact hc (h.subset (by simp))
    rw [List.cons_append, k.replace_cons d _ hkeep, k.replace_cons d r hp, ih]
    rfl

/-- Two parts are replaced one by one if no keyword can reach over their border. -/
theorem replace_append_stop {v : List Char} (hv : ∀ c ∈ v.head?, c ∉ k.spaced) (u : List Char) :
    k.replace (u ++ v) = k.replace u ++ k.replace v := by
  cases v with
  | nil => rw [List.append_nil, k.replace_nil, List.append_nil]
  | cons c t =>
    have hc := hv c rfl
    rw [k.replace_append_cons hc, k.replace_cons c t (k.not_spaced_of_ne _ t)]
    rintro rfl
    exact hc List.mem_cons_self

theorem mem_replace {c : Char} {s : List Char} (h : c ∈ k.replace s) :
    c ∈ s ∨ c = k.mark := by
  induction s using k.reading with
  | nil =>
    rw [k.replace_nil] at h
    exact .inl h
  | spaced r ih =>
    rw [k.replace_spaced_append] at h
    rcases List.mem_append.1 h with h | h
    · have hblock : (' ' :: k.operator ++ [' ']).all (fun c => k.spaced.contains c || c == k.mark) =
          true := by cases k <;> decide
      have hc : c ∈ k.spaced ∨ c = k.mark := by simpa using List.all_eq_true.1 hblock c h
      exact hc.imp (List.mem_append_left _) id
    · exact (ih h).imp (List.mem_append_right _) id
  | cons d r hp ih =>
    rw [k.replace_cons d r hp] at h
    rcases List.mem_cons.1 h with rfl | h
    · exact .inl List.mem_cons_self
    · exact (ih h).imp (List.mem_cons_of_mem _) id

/-! ### The guards -/

theorem balancedFrom_replace (d : Nat) (s : List Char) :
    balancedFrom d (k.replace s) = balancedFrom d s := by
  induction s using k.reading generalizing d with
  | nil => rw [k.replace_nil]
  | spaced r ih =>
    rw [k.replace_spaced_append, balancedFrom_append (by cases k <;> decide),
      balancedFrom_append (by cases k <;> decide), ih]
  | cons c r hp ih =>
    rw [k.replace_cons c r hp]
    simp only [balancedFrom.eq_def _ (c :: _), ih]

theorem tooDeepFrom_replace (d : Nat) (s : List Char) :
    tooDeepFrom d (k.replace s) = tooDeepFrom d s := by
  induction s using k.reading generalizing d with
  | nil => rw [k.replace_nil]
  | spaced r ih =>
    rw [k.replace_spaced_append, tooDeepFrom_append (by cases k <;> decide),
      tooDeepFrom_append (by cases k <;> decide), ih]
  | cons c r hp ih =>
    rw [k.replace_cons c r hp]
    simp only [tooDeepFrom, ih]

theorem standsAlone_replace {c : Char} {joins : Char → Bool} (hs : Quiet c joins k.spaced)
    (ho : Quiet c joins (' ' :: k.operator ++ [' '])) (before : Option Char) (s : List Char) :
    standsAlone c joins before (k.replace s) = standsAlone c joins before s := by
  induction s using k.reading generalizing before with
  | nil => rw [k.replace_nil]
  | spaced r ih =>
    have hblock :
        (' ' :: k.operator ++ [' ']).getLast?.or before = k.spaced.getLast?.or before := by
      cases k <;> rfl
    rw [k.replace_spaced_append, ho, hs, ih, hblock]
  | cons d r hp ih =>
    rw [k.replace_cons d r hp, standsAlone, standsAlone, ih, (k.sameLead_replace r).head?_eq]

theorem hasLoneOperator_replace (s : List Char) :
    hasLoneOperator (k.replace s) = hasLoneOperator s := by
  have hequal : hasLoneAssignment (k.replace s) = hasLoneAssignment s :=
    k.standsAlone_replace (.of_notMem (by cases k <;> decide)) (.of_notMem (by cases k <;> decide))
      none s
  have hmark : ∀ j : Keyword, hasLone j.mark (k.replace s) = hasLone j.mark s := fun j =>
    k.standsAlone_replace (.of_notMem (by cases k <;> cases j <;> decide)) (.operator j k) none s
  have hand : hasLone '&' (k.replace s) = hasLone '&' s := hmark .and
  have hor : hasLone '|' (k.replace s) = hasLone '|' s := hmark .or
  rw [hasLoneOperator, hasLoneOperator, hequal, hand, hor]

end Keyword

end ConditionRegistry
