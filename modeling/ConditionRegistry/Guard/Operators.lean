set_option autoImplicit false

/-!
# Lone operators

A single `=`, `&` or `|` is taken to be a mistake for the double one. An operator is alone if
neither the character before it nor the one after it could be a part of it.
-/

namespace ConditionRegistry.Guard

def standsAlone (c : Char) (joins : Char → Bool) : Option Char → List Char → Bool
  | _, [] => false
  | before, d :: r =>
    (d == c && !before.any joins && !r.head?.any joins) || standsAlone c joins (some d) r

def isComparisonChar (c : Char) : Bool := c == '=' || c == '!' || c == '<' || c == '>'

def hasLoneAssignment (s : List Char) : Bool := standsAlone '=' isComparisonChar none s

/-- `&` and `|` are joined by themselves only. -/
def hasLone (c : Char) (s : List Char) : Bool := standsAlone c (· == c) none s

def hasLoneOperator (s : List Char) : Bool :=
  hasLoneAssignment s || hasLone '&' s || hasLone '|' s

theorem hasLoneOperator_of_assignment (s : List Char) (h : hasLoneAssignment s = true) :
    hasLoneOperator s = true := by
  simp [hasLoneOperator, h]

end ConditionRegistry.Guard
