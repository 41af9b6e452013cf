import ConditionRegistry.Pattern.Escape

set_option autoImplicit false

/-!
# Sets in brackets

A set is read from the left, together with the depth to which its writing is nested. An operator
applies to all that stands before it and all that stands after it, up to the next one.
-/

namespace ConditionRegistry.Pattern
open Text

inductive SetOp where
  | both | without | apart
  deriving DecidableEq, Repr

def SetOp.apply : SetOp → Ranges → Ranges → Ranges
  | .both => .both
  | .without => .without
  | .apart => .apart

structure NestedSet where
  set : Ranges
  depth : Nat

structure SetItems where
  set : Ranges
  count : Nat
  /-- of the deepest of them -/
  depth : Nat

def SetItems.none : SetItems := ⟨[], 0, 0⟩

def SetItems.add (i : SetItems) (s : NestedSet) : SetItems :=
  ⟨i.set.union s.set, i.count + 1, max i.depth s.depth⟩

/-- Several items are one level deeper than the deepest of them. -/
def SetItems.together (i : SetItems) : NestedSet :=
  ⟨i.set, if i.count ≤ 1 then i.depth else i.depth + 1⟩

/-- The operator that is not complete yet, applied to what stands after it. -/
def complete (pending : Option (SetOp × NestedSet)) (items : SetItems) : NestedSet :=
  let after := items.together
  match pending with
  | some (op, before) => ⟨op.apply before.set after.set, max before.depth after.depth + 1⟩
  | none => after

def setOp? : List Char → Option (SetOp × List Char)
  | '&' :: '&' :: r => some (.both, r)
  | '-' :: '-' :: r => some (.without, r)
  | '~' :: '~' :: r => some (.apart, r)
  | _ => none

def posix? (f : Flags) (s : List Char) : Option (Ranges × List Char) :=
  match s with
  | ':' :: r =>
    let (negated, r) := match r with
      | '^' :: r' => (true, r')
      | _ => (false, r)
    match splitAt? [':'] r with
    | some (n, ']' :: rest) =>
      (posixSet? (String.ofList n)).map fun s => (negateIf negated (f.fold s), rest)
    | _ => none
  | _ => none

def setItem? (f : Flags) : List Char → Option (Primitive × List Char)
  | '\\' :: r => escape? f r
  | c :: r => some (.literal c, r)
  | [] => none

/-- Without Unicode a set holds ASCII only. -/
def isAllowed (f : Flags) (c : Char) : Bool := f.unicode || c.toNat < 0x80

def setRange? (f : Flags) (s : List Char) : Option (Ranges × List Char) :=
  match setItem? f s with
  | none => none
  | some (first, r) =>
    let r := f.skip r
    let single : Option (Ranges × List Char) :=
      match first with
      | .literal c => if isAllowed f c then some (f.fold (oneChar c), r) else none
      | .set s => some (s, r)
      | _ => none
    match r with
    | [] => none
    | c :: r' =>
      let next := (f.skip r').head?
      if c != '-' || next == some ']' || next == some '-' then single
      else
        match setItem? f (f.skip r') with
        | some (.literal high, rest) =>
          match first with
          | .literal low =>
            if low ≤ high && isAllowed f high then
              some (f.fold [(low.toNat, high.toNat)], rest)
            else none
          | _ => none
        | _ => none

def setOpening? (f : Flags) (s : List Char) : Option (Bool × SetItems × List Char) :=
  let s := f.skip s
  let (negated, s) := match s with
    | '^' :: r => (true, f.skip r)
    | _ => (false, s)
  let rec hyphens (fuel : Nat) (found : SetItems) (s : List Char) : SetItems × List Char :=
    match fuel, s with
    | fuel + 1, '-' :: r => hyphens fuel (found.add ⟨oneChar '-', 0⟩) (f.skip r)
    | _, _ => (found, s)
  match hyphens s.length .none s with
  | (_, []) => none
  | (found, c :: r) =>
    if c == ']' && found.count == 0 then
      some (negated, found.add ⟨f.fold (oneChar ']'), 0⟩, f.skip r)
    else some (negated, found, c :: r)

def setBody? : Nat → Flags → Bool → Option (SetOp × NestedSet) → SetItems → List Char →
    Option (NestedSet × List Char)
  | 0, _, _, _, _, _ => none
  | fuel + 1, f, negated, pending, items, s =>
    let s := f.skip s
    match s with
    | [] => none
    | ']' :: r =>
      if negated && !f.unicode then none else
        let all := complete pending items
        some (⟨negateIf negated all.set, all.depth + 1⟩, r)
    | '[' :: r =>
      match posix? f r with
      | some (t, rest) => setBody? fuel f negated pending (items.add ⟨t, 0⟩) rest
      | none =>
        match setOpening? f r with
        | none => none
        | some (n, t, rest) =>
          match setBody? fuel f n none t rest with
          | none => none
          | some (t', rest') => setBody? fuel f negated pending (items.add t') rest'
    | _ =>
      match setOp? s with
      | some (op, rest) => setBody? fuel f negated (some (op, complete pending items)) .none rest
      | none =>
        match setRange? f s with
        | some (t, rest) => setBody? fuel f negated pending (items.add ⟨t, 0⟩) rest
        | none => none

def bracketSet? (f : Flags) (s : List Char) : Option (NestedSet × List Char) :=
  match setOpening? f s with
  | none => none
  | some (negated, items, rest) => setBody? (s.length + 2) f negated none items rest

end ConditionRegistry.Pattern
