import ConditionRegistry.Guard.Parentheses
import Mathlib.Data.List.Infix

set_option autoImplicit false

/-!
# What the guards of parentheses decide

Parentheses are balanced if they are groups within and after each other, whatever stands between
them. They are too deep if some part of the text opens more than `maxDepth` more than it closes,
wherever it begins: one that closes nothing does not make room for another.
-/

namespace ConditionRegistry.Guard

def isParen (c : Char) : Bool := c == '(' || c == ')'

/-- Induction along a text as its parentheses are counted, where `d` are open before it. -/
theorem counting {P : Nat → List Char → Prop} (nil : ∀ d, P d [])
    (opened : ∀ d r, P (d + 1) r → P d ('(' :: r))
    (closed : ∀ d r, P d r → P (d + 1) (')' :: r)) (unopened : ∀ r, P 0 r → P 0 (')' :: r))
    (other : ∀ d c r, c ≠ '(' → c ≠ ')' → P d r → P d (c :: r)) (d : Nat) (s : List Char) :
    P d s := by
  induction s generalizing d with
  | nil => exact nil d
  | cons c r ih =>
    by_cases hopen : c = '('
    · subst hopen
      exact opened d r (ih (d + 1))
    · by_cases hclose : c = ')'
      · subst hclose
        cases d with
        | zero => exact unopened r (ih 0)
        | succ d => exact closed d r (ih d)
      · exact other d c r hopen hclose (ih d)

/-- Parentheses with their partners: none, or a group and what comes after it. -/
inductive Groups where
  | none
  | group (inner after : Groups)

namespace Groups

def text : Groups → List Char
  | none => []
  | group inner after => '(' :: inner.text ++ ')' :: after.text

def append : Groups → Groups → Groups
  | none, h => h
  | group inner after, h => group inner (after.append h)

theorem text_append (g h : Groups) : (g.append h).text = g.text ++ h.text := by
  induction g with
  | none => rfl
  | group inner after _ ih =>
    rw [append, text, ih]
    simp [text]

theorem balancedFrom_append (g : Groups) (d : Nat) (r : List Char) :
    balancedFrom d (g.text ++ r) = balancedFrom d r := by
  induction g generalizing d r with
  | none => rfl
  | group inner after ihi iha =>
    rw [text, List.append_assoc, List.cons_append, List.cons_append, balancedFrom_open, ihi,
      balancedFrom_close, iha]

end Groups

/-! ### Balance -/

theorem filter_isParen_other {c : Char} (hopen : c ≠ '(') (hclose : c ≠ ')') (r : List Char) :
    (c :: r).filter isParen = r.filter isParen :=
  List.filter_cons_of_neg (by simp [isParen, hopen, hclose])

theorem balancedFrom_filter (d : Nat) (s : List Char) :
    balancedFrom d (s.filter isParen) = balancedFrom d s := by
  induction d, s using counting with
  | nil d => rfl
  | opened d r ih => rw [List.filter_cons_of_pos rfl, balancedFrom_open, balancedFrom_open, ih]
  | closed d r ih => rw [List.filter_cons_of_pos rfl, balancedFrom_close, balancedFrom_close, ih]
  | unopened r ih =>
    rw [List.filter_cons_of_pos rfl, balancedFrom_close_zero, balancedFrom_close_zero]
  | other d c r hopen hclose ih =>
    rw [filter_isParen_other hopen hclose, balancedFrom_other d r hopen hclose, ih]

theorem tooDeepFrom_filter (d : Nat) (s : List Char) :
    tooDeepFrom d (s.filter isParen) = tooDeepFrom d s := by
  induction d, s using counting with
  | nil d => rfl
  | opened d r ih => rw [List.filter_cons_of_pos rfl, tooDeepFrom_open, tooDeepFrom_open, ih]
  | closed d r ih =>
    rw [List.filter_cons_of_pos rfl, tooDeepFrom_close, tooDeepFrom_close, Nat.add_sub_cancel, ih]
  | unopened r ih => rw [List.filter_cons_of_pos rfl, tooDeepFrom_close, tooDeepFrom_close, ih]
  | other d c r hopen hclose ih =>
    rw [filter_isParen_other hopen hclose, tooDeepFrom_other d r hopen hclose, ih]

theorem isBalanced_of_groups {s : List Char} {g : Groups} (h : s.filter isParen = g.text) :
    isBalanced s = true := by
  have hgroups := g.balancedFrom_append 0 []
  rw [List.append_nil] at hgroups
  rw [isBalanced, ← balancedFrom_filter, h, hgroups]
  rfl

/-- What closes the groups that are open: for each of them a parenthesis, and groups after it. -/
def closing (gs : List Groups) : List Char := gs.flatMap fun g => ')' :: g.text

/-- The parentheses of a balanced text are groups, and then what closes those that were open. -/
theorem exists_groups_of_balancedFrom {d : Nat} {s : List Char} (h : balancedFrom d s = true) :
    ∃ (g : Groups) (gs : List Groups),
      gs.length = d ∧ s.filter isParen = g.text ++ closing gs := by
  induction d, s using counting with
  | nil d =>
    have hd : d = 0 := by simpa [balancedFrom] using h
    exact ⟨.none, [], hd.symm, rfl⟩
  | opened d r ih =>
    rw [balancedFrom_open] at h
    -- the group that is opened here is the first that is closed behind
    obtain ⟨inner, gs, hlength, htext⟩ := ih h
    obtain ⟨after, gs, rfl⟩ := List.exists_cons_of_length_eq_add_one hlength
    refine ⟨.group inner after, gs, by simpa using hlength, ?_⟩
    rw [List.filter_cons_of_pos rfl, htext]
    simp [closing, Groups.text]
  | closed d r ih =>
    rw [balancedFrom_close] at h
    obtain ⟨g, gs, hlength, htext⟩ := ih h
    refine ⟨.none, g :: gs, by simp [hlength], ?_⟩
    rw [List.filter_cons_of_pos rfl, htext]
    simp [closing, Groups.text]
  | unopened r ih =>
    rw [balancedFrom_close_zero] at h
    cases h
  | other d c r hopen hclose ih =>
    rw [balancedFrom_other d r hopen hclose] at h
    obtain ⟨g, gs, hlength, htext⟩ := ih h
    exact ⟨g, gs, hlength, (filter_isParen_other hopen hclose r).trans htext⟩

/-- The parentheses of a text are groups, whatever stands between them. -/
def Grouped (s : List Char) : Prop := ∃ g : Groups, s.filter isParen = g.text

theorem isBalanced_iff_grouped (s : List Char) : isBalanced s = true ↔ Grouped s := by
  constructor
  · intro h
    obtain ⟨g, gs, hlength, htext⟩ := exists_groups_of_balancedFrom h
    rw [List.length_eq_zero_iff.1 hlength] at htext
    exact ⟨g, htext.trans (List.append_nil _)⟩
  · rintro ⟨g, h⟩
    exact isBalanced_of_groups h

/-! ### Depth -/

/-- No part of the text opens more than `maxDepth` more than it closes, and if `depth` are open
    before it, none at its beginning does with them. -/
structure Shallow (depth : Nat) (s : List Char) : Prop where
  starts : ∀ p, p <+: s → depth + p.count '(' ≤ p.count ')' + maxDepth
  parts : ∀ w, w <:+: s → w.count '(' ≤ w.count ')' + maxDepth

theorem shallow_nil_iff (d : Nat) : Shallow d [] ↔ d ≤ maxDepth := by
  constructor
  · intro h
    simpa using h.starts [] List.prefix_rfl
  · intro hd
    refine ⟨fun p hp => ?_, fun w hw => ?_⟩
    · rw [List.prefix_nil.1 hp]
      simpa using hd
    · rw [List.infix_nil.1 hw]
      exact Nat.zero_le _

theorem shallow_cons_iff (d : Nat) (c : Char) (r : List Char) :
    Shallow d (c :: r) ↔ d ≤ maxDepth ∧
      (∀ p, p <+: r → d + (c :: p).count '(' ≤ (c :: p).count ')' + maxDepth) ∧
      ∀ w, w <:+: r → w.count '(' ≤ w.count ')' + maxDepth := by
  constructor
  · intro h
    refine ⟨by simpa using h.starts [] (List.nil_prefix), fun p hp => ?_, fun w hw => ?_⟩
    · exact h.starts (c :: p) (List.cons_prefix_cons.2 ⟨rfl, hp⟩)
    · exact h.parts w (List.infix_cons hw)
  · rintro ⟨hd, hstarts, hparts⟩
    have hall : ∀ p, p <+: c :: r → d + p.count '(' ≤ p.count ')' + maxDepth := by
      intro p hp
      rcases List.prefix_cons_iff.1 hp with rfl | ⟨q, rfl, hq⟩
      · simpa using hd
      · exact hstarts q hq
    refine ⟨hall, fun w hw => ?_⟩
    rcases List.infix_cons_iff.1 hw with hw | hw
    · have hstart := hall w hw
      omega
    · exact hparts w hw

theorem shallow_open_iff (d : Nat) (r : List Char) :
    Shallow d ('(' :: r) ↔ d + 1 ≤ maxDepth ∧ Shallow (d + 1) r := by
  have hcount (p : List Char) : d + ('(' :: p).count '(' ≤ ('(' :: p).count ')' + maxDepth ↔
      d + 1 + p.count '(' ≤ p.count ')' + maxDepth := by
    rw [List.count_cons_self, List.count_cons_of_ne (by decide)]
    omega
  rw [shallow_cons_iff]
  simp only [hcount]
  constructor
  · rintro ⟨-, hstarts, hparts⟩
    exact ⟨by simpa using hstarts [] List.nil_prefix, hstarts, hparts⟩
  · rintro ⟨hd, hstarts, hparts⟩
    exact ⟨by omega, hstarts, hparts⟩

theorem shallow_close_iff {d : Nat} (hd : d ≤ maxDepth) (r : List Char) :
    Shallow d (')' :: r) ↔ Shallow (d - 1) r := by
  have hcount (p : List Char) : d + (')' :: p).count '(' ≤ (')' :: p).count ')' + maxDepth ↔
      d + p.count '(' ≤ p.count ')' + 1 + maxDepth := by
    rw [List.count_cons_self, List.count_cons_of_ne (by decide)]
  rw [shallow_cons_iff]
  simp only [hcount]
  constructor
  · rintro ⟨-, hstarts, hparts⟩
    refine ⟨fun p hp => ?_, hparts⟩
    have hstart := hstarts p hp
    have hpart := hparts p hp.isInfix
    omega
  · rintro ⟨hstarts, hparts⟩
    refine ⟨hd, fun p hp => ?_, hparts⟩
    have hstart := hstarts p hp
    omega

theorem shallow_other_iff {d : Nat} (hd : d ≤ maxDepth) {c : Char} (hopen : c ≠ '(')
    (hclose : c ≠ ')') (r : List Char) : Shallow d (c :: r) ↔ Shallow d r := by
  rw [shallow_cons_iff]
  simp only [List.count_cons_of_ne hopen, List.count_cons_of_ne hclose]
  constructor
  · rintro ⟨-, hstarts, hparts⟩
    exact ⟨hstarts, hparts⟩
  · rintro ⟨hstarts, hparts⟩
    exact ⟨hd, hstarts, hparts⟩

theorem tooDeepFrom_eq_false_iff {d : Nat} (hd : d ≤ maxDepth) (s : List Char) :
    tooDeepFrom d s = false ↔ Shallow d s := by
  induction d, s using counting with
  | nil d => exact iff_of_true rfl ((shallow_nil_iff d).2 hd)
  | opened d r ih =>
    rw [tooDeepFrom_open, shallow_open_iff, Bool.or_eq_false_iff, decide_eq_false_iff_not,
      Nat.not_lt]
    exact and_congr_right fun h => ih h
  | closed d r ih =>
    rw [tooDeepFrom_close, shallow_close_iff hd]
    exact ih (by omega)
  | unopened r ih =>
    rw [tooDeepFrom_close, shallow_close_iff hd]
    exact ih hd
  | other d c r hopen hclose ih =>
    rw [tooDeepFrom_other d r hopen hclose, shallow_other_iff hd hopen hclose]
    exact ih hd

/-- What the guard of the depth ensures of every part of the text, and asks of nothing else. -/
theorem isTooDeep_eq_false_iff (s : List Char) :
    isTooDeep s = false ↔ ∀ w, w <:+: s → w.count '(' ≤ w.count ')' + maxDepth := by
  rw [isTooDeep, tooDeepFrom_eq_false_iff (Nat.zero_le _)]
  constructor
  · exact Shallow.parts
  · refine fun h => ⟨fun p hp => ?_, h⟩
    rw [Nat.zero_add]
    exact h p hp.isInfix

end ConditionRegistry.Guard
