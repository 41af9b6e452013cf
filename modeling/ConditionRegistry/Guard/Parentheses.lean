set_option autoImplicit false

/-!
# Parentheses

They are counted wherever they stand, in strings and comments too.
-/

namespace ConditionRegistry.Guard

def balancedFrom (depth : Nat) : List Char → Bool
  | [] => depth == 0
  | c :: r =>
    if c == '(' then balancedFrom (depth + 1) r
    else if c == ')' then
      match depth with
      | 0 => false
      | d + 1 => balancedFrom d r
    else balancedFrom depth r

def isBalanced (s : List Char) : Bool := balancedFrom 0 s

def maxDepth : Nat := 32

/-- Whether more than `maxDepth` are ever open. One that closes nothing does not count. -/
def tooDeepFrom (depth : Nat) : List Char → Bool
  | [] => false
  | c :: r =>
    if c == '(' then decide (maxDepth < depth + 1) || tooDeepFrom (depth + 1) r
    else if c == ')' then tooDeepFrom (depth - 1) r
    else tooDeepFrom depth r

def isTooDeep (s : List Char) : Bool := tooDeepFrom 0 s

/-! ### One character -/

section Steps
variable (d : Nat) (r : List Char)

theorem balancedFrom_open : balancedFrom d ('(' :: r) = balancedFrom (d + 1) r := by
  rw [balancedFrom.eq_def]
  rfl

theorem balancedFrom_close : balancedFrom (d + 1) (')' :: r) = balancedFrom d r := by
  rw [balancedFrom.eq_def]
  rfl

theorem balancedFrom_close_zero : balancedFrom 0 (')' :: r) = false := by
  rw [balancedFrom.eq_def]
  rfl

theorem tooDeepFrom_open :
    tooDeepFrom d ('(' :: r) = (decide (maxDepth < d + 1) || tooDeepFrom (d + 1) r) := rfl

theorem tooDeepFrom_close : tooDeepFrom d (')' :: r) = tooDeepFrom (d - 1) r := rfl

variable {c : Char} (hopen : c ≠ '(') (hclose : c ≠ ')')
include hopen hclose

theorem balancedFrom_other : balancedFrom d (c :: r) = balancedFrom d r := by
  simp only [balancedFrom.eq_def _ (c :: _), beq_iff_eq, hopen, hclose, if_false]

theorem tooDeepFrom_other : tooDeepFrom d (c :: r) = tooDeepFrom d r := by
  simp [tooDeepFrom, hopen, hclose]

end Steps

end ConditionRegistry.Guard
