import ConditionRegistry.Proofs.NormalForm
import ConditionRegistry.Validation
import Mathlib.Data.List.DropRight

set_option autoImplicit false

/-!
# Normal forms, piece by piece

A text is split at all of its spaces. A piece between others gives way to an operator if it is the
keyword, unless the piece before it has given way to the same operator: then the space between the
two is used up. That is all the two replacements do, apart from the white space at the ends.
-/

namespace ConditionRegistry
open Text

def Keyword.givesWay (k : Keyword) (pieces : List (List Char)) : Nat → Bool
  | 0 => false
  | i + 1 =>
    decide (i + 2 < pieces.length) && pieces[i + 1]? == some k.word && !k.givesWay pieces i

def normalPiece (pieces : List (List Char)) (i : Nat) (piece : List Char) : List Char :=
  if Keyword.and.givesWay pieces i then Keyword.and.operator
  else if Keyword.or.givesWay pieces i then Keyword.or.operator
  else piece

def normalPieces (s : List Char) : List (List Char) :=
  (s.splitOn ' ').mapIdx (normalPiece (s.splitOn ' '))

/-! ### Pieces of a text -/

def spread (pieces : List (List Char)) : List Char := pieces.flatMap fun p => ' ' :: p

theorem intercalate_eq_spread (p : List Char) (r : List (List Char)) :
    [' '].intercalate (p :: r) = p ++ spread r := by
  induction r generalizing p with
  | nil => simp [List.intercalate, spread]
  | cons q r ih => rw [List.intercalate_cons_cons, ih, spread, spread, List.flatMap_cons]; simp

theorem notMem_of_mem_splitOn {s p : List Char} {c : Char} (h : p ∈ s.splitOn c) : c ∉ p := by
  induction s generalizing p with
  | nil =>
    rw [List.splitOn_nil, List.mem_singleton] at h
    simp [h]
  | cons d r ih =>
    rw [List.splitOn_cons_eq_if_modifyHead] at h
    split at h
    · rcases List.mem_cons.1 h with rfl | h
      · simp
      · exact ih h
    · next hd =>
      obtain ⟨q, qs, hr⟩ := List.exists_cons_of_ne_nil (List.splitOn_ne_nil c r)
      rw [hr] at h ih
      rw [List.modifyHead_cons, List.mem_cons] at h
      rcases h with rfl | h
      · rw [List.mem_cons, not_or]
        exact ⟨fun hcd => hd (by simp [hcd]), ih List.mem_cons_self⟩
      · exact ih (List.mem_cons_of_mem _ h)

namespace Keyword
variable (k : Keyword)

theorem notMem_operator : ' ' ∉ k.operator := by
  cases k <;> decide

/-- The keyword stands between spaces only as a piece of its own, with a piece after it. -/
theorem eq_word_of_spaced {p : List Char} {r : List (List Char)} (hp : ' ' ∉ p)
    (h : k.spaced <+: ' ' :: (p ++ spread r)) : p = k.word ∧ r ≠ [] := by
  have hword : k.word ++ [' '] <+: p ++ spread r := (List.cons_prefix_cons.1 h).2
  have hspace : ' ' ∉ k.word := by cases k <;> decide
  have hfirst : ∀ w t : List Char, ' ' ∉ w → (w ++ ' ' :: t).takeWhile (· != ' ') = w := by
    intro w t hw
    rw [List.takeWhile_append_of_pos fun c hc => bne_iff_ne.2 (ne_of_mem_of_not_mem hc hw)]
    simp
  obtain ⟨t, ht⟩ := hword
  rw [List.append_assoc] at ht
  cases r with
  | nil =>
    have hmem : ' ' ∈ p := by
      have hin : ' ' ∈ p ++ spread [] := by
        rw [← ht]
        simp
      simpa [spread] using hin
    exact absurd hmem hp
  | cons q r =>
    refine ⟨?_, List.cons_ne_nil q r⟩
    have hlead := congrArg (List.takeWhile (· != ' ')) ht
    rw [List.singleton_append, hfirst _ _ hspace, spread, List.flatMap_cons, List.cons_append,
      hfirst _ _ hp] at hlead
    exact hlead.symm

/-! ### A replacement reads piece by piece -/

/-- The pieces after one that has given way or has not. -/
def rewriteAfter : Bool → List (List Char) → List (List Char)
  | _, [] => []
  | gave, p :: r =>
    let gives := !r.isEmpty && p == k.word && !gave
    (if gives then k.operator else p) :: rewriteAfter gives r

theorem rewriteAfter_of_stays {gave : Bool} {p : List Char} {r : List (List Char)}
    (h : (!r.isEmpty && p == k.word && !gave) = false) :
    k.rewriteAfter gave (p :: r) = p :: k.rewriteAfter false r := by
  simp only [rewriteAfter, h, Bool.false_eq_true, if_false]

theorem rewriteAfter_of_gives (q : List Char) (r : List (List Char)) :
    k.rewriteAfter false (k.word :: q :: r) = k.operator :: q :: k.rewriteAfter false r := by
  have hgives : (!(q :: r).isEmpty && k.word == k.word && !false) = true := by simp
  have hstays : (!r.isEmpty && q == k.word && !true) = false := by simp
  rw [rewriteAfter]
  simp only [hgives, if_true]
  rw [k.rewriteAfter_of_stays hstays]

theorem replace_spread (r : List (List Char)) (h : ∀ p ∈ r, ' ' ∉ p) :
    k.replace (spread r) = spread (k.rewriteAfter false r) := by
  induction hlength : r.length using Nat.strongRecOn generalizing r with
  | _ n ih =>
    subst hlength
    cases r with
    | nil => exact k.replace_nil
    | cons p r =>
      obtain ⟨hp, hr⟩ := List.forall_mem_cons.1 h
      by_cases hgives : p = k.word ∧ r ≠ []
      · obtain ⟨rfl, hne⟩ := hgives
        obtain ⟨q, t, rfl⟩ := List.exists_cons_of_ne_nil hne
        obtain ⟨hq, ht⟩ := List.forall_mem_cons.1 hr
        have hspaced : spread (k.word :: q :: t) = k.spaced ++ (q ++ spread t) := by
          simp [spread, spaced]
        have hlt : t.length < (k.word :: q :: t).length := by
          rw [List.length_cons, List.length_cons]
          omega
        rw [hspaced, k.replace_spaced, k.replace_append hq, ih _ hlt t ht rfl,
          k.rewriteAfter_of_gives]
        simp [spread]
      · have hstays : (!r.isEmpty && p == k.word && !false) = false := by
          rw [not_and_or, not_ne_iff] at hgives
          rcases hgives with hne | rfl
          · simp [hne]
          · rfl
        have hnot : ¬ k.spaced <+: ' ' :: (p ++ spread r) :=
          fun hs => hgives (k.eq_word_of_spaced hp hs)
        have hcons : spread (p :: r) = ' ' :: (p ++ spread r) := rfl
        rw [k.rewriteAfter_of_stays hstays, hcons, k.replace_cons _ _ hnot, k.replace_append hp,
          ih r.length (by simp) r hr rfl]
        rfl

/-- The flag of the recursion is whether the piece before has given way. -/
theorem rewriteAfter_eq_mapIdx (pieces before r : List (List Char)) (n : Nat)
    (hpieces : pieces = before ++ r) (hn : before.length = n + 1) :
    k.rewriteAfter (k.givesWay pieces n) r =
      r.mapIdx fun i p => if k.givesWay pieces (n + 1 + i) then k.operator else p := by
  induction r generalizing before n with
  | nil => rfl
  | cons p r ih =>
    have hgives : (!r.isEmpty && p == k.word && !k.givesWay pieces n) =
        k.givesWay pieces (n + 1) := by
      have hlast : (!r.isEmpty) = decide (n + 2 < pieces.length) := by
        cases r with
        | nil => simp [hpieces, hn]
        | cons q t =>
          have hlt : n + 2 < pieces.length := by
            simp only [hpieces, List.length_append, hn, List.length_cons]
            omega
          simp [hlt]
      have hat : pieces[n + 1]? = some p := by simp [hpieces, ← hn]
      have hsome : (some p == some k.word) = (p == k.word) := rfl
      rw [givesWay, hat, hsome, hlast]
    have hrest := ih (before ++ [p]) (n + 1) (by simp [hpieces]) (by simp [hn])
    rw [rewriteAfter, List.mapIdx_cons, hgives, hrest]
    simp only [Nat.add_zero, Nat.add_assoc, Nat.add_comm 1]

def rewrite (pieces : List (List Char)) : List (List Char) :=
  pieces.mapIdx fun i p => if k.givesWay pieces i then k.operator else p

theorem replace_intercalate {pieces : List (List Char)} (hne : pieces ≠ [])
    (h : ∀ p ∈ pieces, ' ' ∉ p) :
    k.replace ([' '].intercalate pieces) = [' '].intercalate (k.rewrite pieces) := by
  obtain ⟨p, r, rfl⟩ := List.exists_cons_of_ne_nil hne
  obtain ⟨hp, hr⟩ := List.forall_mem_cons.1 h
  have htail := k.rewriteAfter_eq_mapIdx (p :: r) [p] r 0 rfl rfl
  have hrewrite : k.rewrite (p :: r) = p :: k.rewriteAfter false r := by
    rw [rewrite, List.mapIdx_cons]
    simp only [Nat.zero_add, Nat.add_comm 1] at htail ⊢
    rw [← htail]
    rfl
  rw [hrewrite, intercalate_eq_spread, intercalate_eq_spread, k.replace_append hp,
    k.replace_spread r hr]

theorem notMem_of_mem_rewrite {pieces : List (List Char)} (h : ∀ p ∈ pieces, ' ' ∉ p) :
    ∀ p ∈ k.rewrite pieces, ' ' ∉ p := by
  intro p hp
  obtain ⟨i, hi, rfl⟩ := List.mem_mapIdx.1 hp
  split
  · exact k.notMem_operator
  · exact h _ (List.getElem_mem hi)

/-! ### One replacement after the other -/

theorem of_givesWay {pieces : List (List Char)} {i : Nat} (h : k.givesWay pieces i = true) :
    pieces[i]? = some k.word := by
  cases i with
  | zero => cases h
  | succ i =>
    rw [givesWay, Bool.and_eq_true, Bool.and_eq_true, beq_iff_eq] at h
    exact h.1.2

theorem givesWay_rewrite {j : Keyword} (hj : j ≠ k) (pieces : List (List Char)) (i : Nat) :
    k.givesWay (j.rewrite pieces) i = k.givesWay pieces i := by
  have hlength : (j.rewrite pieces).length = pieces.length := by simp [rewrite]
  have hword (i : Nat) :
      ((j.rewrite pieces)[i]? == some k.word) = (pieces[i]? == some k.word) := by
    rw [rewrite, List.getElem?_mapIdx]
    cases hp : pieces[i]? with
    | none => rfl
    | some p =>
      rw [Option.map_some]
      split
      · next hgives =>
        cases (j.of_givesWay hgives).symm.trans hp
        cases j <;> cases k <;> first | rfl | exact absurd rfl hj
      · rfl
  induction i with
  | zero => rfl
  | succ i ih => rw [givesWay, givesWay, ih, hlength, hword]

theorem rewrite_rewrite (pieces : List (List Char)) :
    Keyword.and.rewrite (Keyword.or.rewrite pieces) = pieces.mapIdx (normalPiece pieces) := by
  have hand := Keyword.and.givesWay_rewrite (j := .or) (by decide) pieces
  rw [rewrite]
  simp only [hand]
  rw [rewrite, List.mapIdx_mapIdx]
  rfl

end Keyword

/-- A text is normalised by splitting it at every space, writing the operators in place of the
    pieces that give way, joining the pieces by single spaces again and dropping the white space at
    both ends. -/
theorem normalize_eq_rejoined (raw : String) (h : raw.isEmpty = false) :
    normalize raw = .ok (String.ofList
      ((([' '].intercalate (normalPieces raw.toList)).dropWhile isBlank).rdropWhile isBlank)) := by
  have hne : raw.toList.splitOn ' ' ≠ [] := List.splitOn_ne_nil _ _
  have hspaces : ∀ p ∈ raw.toList.splitOn ' ', ' ' ∉ p := fun p => notMem_of_mem_splitOn
  have hrewritten : Keyword.or.rewrite (raw.toList.splitOn ' ') ≠ [] := by
    simp [Keyword.rewrite]
  have hor : Keyword.or.replace raw.toList =
      [' '].intercalate (Keyword.or.rewrite (raw.toList.splitOn ' ')) := by
    rw [← Keyword.or.replace_intercalate hne hspaces, List.intercalate_splitOn]
  have hboth : Keyword.and.replace (Keyword.or.replace raw.toList) =
      [' '].intercalate (normalPieces raw.toList) := by
    rw [hor, Keyword.and.replace_intercalate hrewritten (Keyword.or.notMem_of_mem_rewrite hspaces),
      Keyword.rewrite_rewrite]
    rfl
  have htext : normalForm raw = String.ofList
      ((([' '].intercalate (normalPieces raw.toList)).dropWhile isBlank).rdropWhile isBlank) := by
    rw [normalForm, Keyword.normalChars_eq, hboth]
    rfl
  rw [normalize, h, htext]
  rfl

/-- Keywords at both ends, in runs of their own kind and of the other, and around two spaces. -/
def keywordRuns : String := "AND a OR OR OR AND AND  AND b OR\n OR"

theorem normalize_eq_rejoined_runs :
    keywordRuns.isEmpty = false ∧
      normalize keywordRuns = .ok (String.ofList
        ((([' '].intercalate (normalPieces keywordRuns.toList)).dropWhile isBlank).rdropWhile
          isBlank)) ∧
      normalize keywordRuns = .ok "AND a || OR || && AND  && b OR\n OR" :=
  ⟨by decide, normalize_eq_rejoined keywordRuns (by decide), by decide +kernel⟩

end ConditionRegistry
