import ConditionRegistry.Text.Ranges

set_option autoImplicit false

/-!
# Sets of characters as trees of bytes

In UTF-8 the characters of a set are the paths of a tree whose branches are ranges of bytes. A byte
after the first one is given by its six bits.
-/

namespace ConditionRegistry.Text

abbrev BytePath := List (Nat × Nat)

def anyDigits (n : Nat) (first : Nat × Nat) : List BytePath :=
  if first.1 ≤ first.2 then [first :: List.replicate n (0, 63)] else []

/-- The numbers from `low` to `high` by their digits to base 64, of which `n` stand after the first.
    On each path the digits do not depend on each other. -/
def digitPaths : Nat → Nat → Nat → List BytePath
  | 0, low, high => [[(low, high)]]
  | n + 1, low, high =>
    let unit := Nat.pow 64 (n + 1)
    let first := low / unit
    let last := high / unit
    if first = last then (digitPaths n (low % unit) (high % unit)).map ((first, first) :: ·)
    else
      let front :=
        if low % unit = 0 then []
        else (digitPaths n (low % unit) (unit - 1)).map ((first, first) :: ·)
      let back :=
        if high % unit = unit - 1 then []
        else (digitPaths n 0 (high % unit)).map ((last, last) :: ·)
      let inner := anyDigits (n + 1) (if low % unit = 0 then first else first + 1,
        if high % unit = unit - 1 then last else last - 1)
      front ++ inner ++ back

structure Encoding where
  low : Nat
  high : Nat
  /-- the number of bytes after the first one -/
  more : Nat
  /-- what the first byte has above its share of the number -/
  lead : Nat

/-- Code points between the third and the fourth are no characters. -/
def encodings : List Encoding :=
  [⟨0, 0x7F, 0, 0⟩, ⟨0x80, 0x7FF, 1, 0xC0⟩, ⟨0x800, 0xD7FF, 2, 0xE0⟩, ⟨0xE000, 0xFFFF, 2, 0xE0⟩,
   ⟨0x10000, 0x10FFFF, 3, 0xF0⟩]

def withLead (lead : Nat) : BytePath → BytePath
  | [] => []
  | r :: rest => (lead + r.1, lead + r.2) :: rest

def Encoding.paths (e : Encoding) (r : Nat × Nat) : List BytePath :=
  let low := max r.1 e.low
  let high := min r.2 e.high
  if low ≤ high then (digitPaths e.more low high).map (withLead e.lead) else []

def Ranges.bytePaths (a : Ranges) : List BytePath :=
  a.flatMap fun r => encodings.flatMap fun e => e.paths r

def branchesOf (ps : List BytePath) : List (List BytePath) :=
  (ps.splitBy fun p q => p.head? == q.head?).map fun g => g.map (·.drop 1)

/-- The places of the tree where it branches, each with the paths that go on from there; a path has
    at most `n` bytes. -/
def nodesOf : Nat → List BytePath → List (List BytePath)
  | 0, _ => []
  | n + 1, ps => if ps.all (·.isEmpty) then [] else ps :: (branchesOf ps).flatMap (nodesOf n)

end ConditionRegistry.Text
