set_option autoImplicit false

/-!
# Sets of characters by ranges

A set of characters is a list of closed ranges of code points in the order of their starts. The
operations on sets give ranges that are apart from each other.
-/

namespace ConditionRegistry.Text

abbrev Ranges := List (Nat × Nat)

def lastCodePoint : Nat := 0x10FFFF

namespace Ranges

def holds (rs : Ranges) (n : Nat) : Bool := rs.any fun r => r.1 ≤ n && n ≤ r.2

def has (rs : Ranges) (c : Char) : Bool := rs.holds c.toNat

def absorb (first : Nat × Nat) : Ranges → Ranges
  | [] => [first]
  | r :: rest =>
    if r.1 ≤ first.2 + 1 then absorb (first.1, max first.2 r.2) rest else first :: absorb r rest

def joined : Ranges → Ranges
  | [] => []
  | r :: rest => absorb r rest

def union (a b : Ranges) : Ranges := joined (List.merge a b fun r s => r.1 ≤ s.1)

def gapsFrom (n : Nat) : Ranges → Ranges
  | [] => if n ≤ lastCodePoint then [(n, lastCodePoint)] else []
  | r :: rest => (if n < r.1 then [(n, r.1 - 1)] else []) ++ gapsFrom (r.2 + 1) rest

def complement (a : Ranges) : Ranges := a.gapsFrom 0

def both (a b : Ranges) : Ranges := (a.complement.union b.complement).complement

def without (a b : Ranges) : Ranges := (a.complement.union b).complement

def apart (a b : Ranges) : Ranges := (a.without b).union (b.without a)

def ofList (ns : List Nat) : Ranges := joined ((ns.mergeSort (· ≤ ·)).map fun n => (n, n))

/-- Every second code point of each range, from its start on, or from the one after its start. -/
def everyOther (after : Nat) (a : Ranges) : Ranges :=
  a.flatMap fun r =>
    (List.range ((r.2 + 2 - r.1 - after) / 2)).map fun i =>
      (r.1 + after + 2 * i, r.1 + after + 2 * i)

end Ranges

end ConditionRegistry.Text
