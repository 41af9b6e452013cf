import ConditionRegistry.Pattern.Regex
import ConditionRegistry.Text.BytePath
import ConditionRegistry.Text.Bytes

set_option autoImplicit false

/-!
# The room of a pattern

A pattern is too large if one of two machines that read a text byte by byte, forward or backward,
takes too much room. Repetitions with numbers are written out.
-/

namespace ConditionRegistry.Pattern
open Text

def stateRoom : Nat := 32

def rangeRoom : Nat := 8

def choiceRoom : Nat := 4

def forkRoom : Nat := stateRoom + 2 * choiceRoom

def roomLimit : Nat := 10485760

/-- A set with characters that are not ASCII. Backward there is a state for each branch of its tree
    of bytes; forward places of the tree are shared where they go on alike. -/
def treeRoom (backward : Bool) (s : Ranges) : Nat :=
  let paths := s.bytePaths
  let nodes := nodesOf 4 paths
  let branches (ns : List (List BytePath)) : Nat := (ns.flatMap branchesOf).length
  if backward then stateRoom * (2 + branches nodes) + choiceRoom * paths.length
  else
    let shared := nodes.eraseDups
    stateRoom * (1 + shared.length) + rangeRoom * branches shared

def setRoom (backward : Bool) (s : Ranges) : Nat :=
  match s.without [(0xD800, 0xDFFF)] with
  | [] => stateRoom
  | r :: rest =>
    if rest.isEmpty && r.1 == r.2 then stateRoom * (Char.ofNat r.1).utf8Size
    else if (r :: rest).all (·.2 < 0x80) then 2 * stateRoom + rangeRoom * (r :: rest).length
    else treeRoom backward s

def Regex.canBeEmpty {α : Type} : Regex Ranges α → Bool
  | .empty => true
  | .char s => (s.without [(0xD800, 0xDFFF)]).isEmpty
  | .anchor _ => true
  | .seq r s => r.canBeEmpty && s.canBeEmpty
  | .alt r s => r.canBeEmpty || s.canBeEmpty
  | .capture r => r.canBeEmpty
  | .times r low _ => low == 0 || r.canBeEmpty

def Regex.isAlwaysEmpty {σ α : Type} : Regex σ α → Bool
  | .empty => true
  | .char _ => false
  | .anchor _ => true
  | .seq r s => r.isAlwaysEmpty && s.isAlwaysEmpty
  | .alt r s => r.isAlwaysEmpty && s.isAlwaysEmpty
  | .capture r => r.isAlwaysEmpty
  | .times r _ high => high == some 0 || r.isAlwaysEmpty

def Regex.oneSet? {α : Type} : Regex Ranges α → Option Ranges
  | .char s => some s
  | .alt r s =>
    match r.oneSet?, s.oneSet? with
    | some a, some b => some (a.union b)
    | _, _ => none
  | _ => none

/-- The room of what is written down at least once; an empty expression takes a state then. -/
def atLeastState (n : Nat) : Nat := if n = 0 then stateRoom else n

def repeatedRoom (one : Nat) (mayBeEmpty : Bool) (low : Nat) (high : Option Nat) : Nat :=
  let copies := if low = 0 then stateRoom else low * one
  match high with
  | none =>
    if 0 < low then low * one + forkRoom
    else if mayBeEmpty then one + 2 * forkRoom + stateRoom
    else one + forkRoom
  | some high =>
    if low = 0 ∧ high = 0 then 0
    else if low = high then copies
    else if low = 0 ∧ high = 1 then one + forkRoom + stateRoom
    else copies + stateRoom + (high - low) * (one + forkRoom)

/-- The room of an expression as a branch, together with the choice of it; `rooms` counts its own
    branches. -/
def branchRoom (rooms : Nat × Nat) : Nat :=
  if rooms.2 = 1 then atLeastState rooms.1 + choiceRoom else rooms.1 - 2 * stateRoom

/-- The room of an expression, which is nothing for one that adds nothing to a sequence, and the
    number of its branches. -/
def Regex.rooms {α : Type} (backward : Bool) : Regex Ranges α → Nat × Nat
  | .empty => (0, 1)
  | .char s => (setRoom backward s, 1)
  | .anchor _ => (stateRoom, 1)
  | .seq r s => ((r.rooms backward).1 + (s.rooms backward).1, 1)
  | .alt r s =>
    match (Regex.alt r s).oneSet? with
    | some set => (setRoom backward set, 1)
    | none =>
      let a := r.rooms backward
      let b := s.rooms backward
      (branchRoom a + branchRoom b + 2 * stateRoom, a.2 + b.2)
  | .capture r =>
    (atLeastState (r.rooms backward).1 + (if backward then 0 else 2 * stateRoom), 1)
  | .times r low high =>
    let a := r.rooms backward
    let one := atLeastState a.1
    if low = 1 ∧ high = some 1 then a
    else if r.isAlwaysEmpty then
      (if low = 0 then repeatedRoom one true 0 (some (min 1 (high.getD 1))) else a.1, 1)
    else (repeatedRoom one r.canBeEmpty low high, 1)

/-- Each machine has states that look for the start of a match, and one for its end. -/
def Regex.fits {α : Type} (r : Regex Ranges α) : Bool :=
  let start := forkRoom + 2 * stateRoom + rangeRoom
  start + 3 * stateRoom + atLeastState (r.rooms false).1 ≤ roomLimit &&
    start + stateRoom + atLeastState (r.rooms true).1 ≤ roomLimit

end ConditionRegistry.Pattern
