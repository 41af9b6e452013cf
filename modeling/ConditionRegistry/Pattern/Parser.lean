import ConditionRegistry.Decimal.Numeral
import ConditionRegistry.Pattern.Bracket
import ConditionRegistry.Pattern.Room

set_option autoImplicit false

/-!
# Reading patterns

A pattern is read from the left. What has been read of the current group is kept as the branches
that are complete and the items of the branch that is not; a repetition applies to the last of
these. A pattern may be neither too large nor nested too deeply.
-/

namespace ConditionRegistry.Pattern
open Decimal Text

abbrev TextRegex := Regex Ranges Anchor

structure Piece where
  regex : TextRegex
  depth : Nat

def Piece.flat (r : TextRegex) : Piece := ⟨r, 0⟩

def Piece.group (p : Piece) (captures : Bool) : Piece :=
  ⟨if captures then .capture p.regex else p.regex, p.depth + 1⟩

def Piece.times (p : Piece) (low : Nat) (high : Option Nat) : Piece :=
  ⟨.times p.regex low high, p.depth + 1⟩

def deepest (ps : List Piece) : Nat := ps.foldl (fun n p => max n p.depth) 0

/-- Items one after the other, given with the last one first. Several are one level deeper than the
    deepest of them. -/
def inSequence (ps : List Piece) : Piece :=
  match ps with
  | [] => .flat .empty
  | [p] => p
  | p :: rest => ⟨rest.foldl (fun r q => .seq q.regex r) p.regex, deepest ps + 1⟩

def asBranches (ps : List Piece) : Piece :=
  match ps with
  | [] => .flat .empty
  | [p] => p
  | p :: rest => ⟨rest.foldl (fun r q => .alt q.regex r) p.regex, deepest ps + 1⟩

/-! ### Repetitions -/

def count? (f : Flags) (s : List Char) : Option Nat × List Char :=
  let s := s.dropWhile isBlank
  let rec digits (fuel : Nat) (s : List Char) : List Char × List Char :=
    match fuel, s with
    | fuel + 1, c :: r =>
      if c.isDigit then let p := digits fuel (f.skip r); (c :: p.1, p.2) else ([], s)
    | _, _ => ([], s)
  let (ds, rest) := digits s.length s
  let n := valueOf ds
  (if ds.isEmpty || n ≥ Nat.pow 2 32 then none else some n, f.skip (rest.dropWhile isBlank))

def counted? (f : Flags) (p : Piece) (s : List Char) : Option (Piece × List Char) :=
  let close (p : Piece) (s : List Char) : Option (Piece × List Char) :=
    match s with
    | c :: rest =>
      if c == Char.ofNat 0x7D then
        let rest := f.skip rest
        some (p, if rest.head? == some '?' then rest.drop 1 else rest)
      else none
    | [] => none
  match count? f (f.skip s) with
  | (low, ',' :: rest) =>
    let rest := f.skip rest
    match low with
    | none => none
    | some low =>
      if rest.head? == some (Char.ofNat 0x7D) then close (p.times low none) rest
      else
        match count? f rest with
        | (some high, rest) => if low ≤ high then close (p.times low (some high)) rest else none
        | (none, _) => none
  | (some n, rest) => close (p.times n (some n)) rest
  | (none, _) => none

/-! ### Groups -/

/-- Flags up to a closing bracket or a colon, and which of the two. A flag may stand only once. -/
def groupFlags? : List Char → Bool → Bool → Flags → List Char →
    Option (Flags × Bool × Char × List Char)
  | _, _, _, _, [] => none
  | seen, negative, dangling, f, c :: r =>
    if c == ':' || c == ')' then
      if dangling then none else some (f, !seen.isEmpty || negative, c, r)
    else if c == '-' then
      if negative then none else groupFlags? seen true true f r
    else if seen.contains c then none
    else
      match f.set? c (!negative) with
      | some f' => groupFlags? (c :: seen) negative false f' r
      | none => none

def isNameChar (first : Bool) (c : Char) : Bool :=
  if first then c == '_' || (isAlphanumeric c && !isOneOf Category.numbers c)
  else c == '_' || c == '.' || c == '[' || c == ']' || isAlphanumeric c

def groupName? (s : List Char) : Option (String × List Char) :=
  let n := s.takeWhile (· != '>')
  match n, s.drop n.length with
  | c :: r, _ :: rest =>
    if isNameChar true c && r.all (isNameChar false) then some (String.ofList n, rest) else none
  | _, _ => none

inductive Opening where
  /-- flags for the rest of the group around -/
  | flags (f : Flags)
  /-- a group with its flags, whether its text could be asked for, and its name -/
  | group (f : Flags) (captures : Bool) (name : Option String)

def opening? (f : Flags) (s : List Char) : Option (Opening × List Char) :=
  match f.skip s with
  | '?' :: 'P' :: '<' :: r => (groupName? r).map fun p => (.group f true (some p.1), p.2)
  | '?' :: '<' :: r => (groupName? r).map fun p => (.group f true (some p.1), p.2)
  | '?' :: r =>
    match groupFlags? [] false false f r with
    | some (g, given, c, rest) =>
      if c == ':' then some (.group g false none, rest)
      else if given then some (.flags g, rest)
      else none
    | none => none
  | s => some (.group f true none, s)

structure Partial where
  branches : List Piece
  /-- the items of the branch, except the last -/
  items : List Piece
  /-- the last item, if it is one that can be repeated -/
  last : Option Piece

def Partial.start : Partial := ⟨[], [], none⟩

def Partial.push (p : Partial) (q : Piece) : Partial :=
  ⟨p.branches, p.last.toList ++ p.items, some q⟩

/-- A change of flags is an item that matches the empty text. -/
def Partial.pushFlags (p : Partial) : Partial :=
  ⟨p.branches, .flat .empty :: (p.last.toList ++ p.items), none⟩

def Partial.closeBranch (p : Partial) : Partial :=
  ⟨inSequence (p.last.toList ++ p.items) :: p.branches, [], none⟩

def Partial.whole (p : Partial) : Piece := asBranches p.closeBranch.branches

def lazyMark (s : List Char) : List Char := if s.head? == some '?' then s.drop 1 else s

def dotSet (f : Flags) : Ranges :=
  if f.dotNewline then [(0, lastCodePoint)]
  else if f.crlf then Ranges.complement [(0x0A, 0x0A), (0x0D, 0x0D)]
  else (oneChar '\n').complement

def primitive? (f : Flags) : Primitive → Option TextRegex
  | .literal c =>
    let folds := f.ignoreCase && (f.unicode || c.toNat < 0x80)
    some (.char (if folds then (oneChar c).anyCase else oneChar c))
  | .set s => some (.char s)
  | .anchor a => some (.anchor a)
  | .dot => if f.unicode then some (.char (dotSet f)) else none

/-- The items of a group up to its closing bracket, or to the end of the pattern. `names` are the
    names of groups so far. -/
def items? : Nat → Flags → List String → Partial → List Char →
    Option (Piece × List String × List Char)
  | 0, _, _, _, _ => none
  | fuel + 1, f, names, p, s =>
    let repeated (low : Nat) (high : Option Nat) (r : List Char) :
        Option (Piece × List String × List Char) :=
      match p.last with
      | some q => items? fuel f names { p with last := some (q.times low high) } (lazyMark r)
      | none => none
    let single (q : TextRegex) (r : List Char) : Option (Piece × List String × List Char) :=
      items? fuel f names (p.push (.flat q)) r
    match f.skip s with
    | [] => some (p.whole, names, [])
    | c :: r =>
      match c with
      | ')' => some (p.whole, names, c :: r)
      | '|' => items? fuel f names p.closeBranch r
      | '*' => repeated 0 none r
      | '+' => repeated 1 none r
      | '?' => repeated 0 (some 1) r
      | '(' =>
        match opening? f r with
        | none => none
        | some (.flags g, rest) => items? fuel g names p.pushFlags rest
        | some (.group g captures n, rest) =>
          if n.any names.contains then none
          else
            match items? fuel g (n.toList ++ names) Partial.start rest with
            | some (q, names', ')' :: rest') =>
              items? fuel f names' (p.push (q.group captures)) rest'
            | _ => none
      | '[' =>
        match bracketSet? f r with
        | some (t, rest) => items? fuel f names (p.push ⟨.char t.set, t.depth⟩) rest
        | none => none
      | '^' => single (.anchor (if f.multiLine then .lineStart f.crlf else .textStart)) r
      | '$' => single (.anchor (if f.multiLine then .lineEnd f.crlf else .textEnd)) r
      | '.' =>
        match primitive? f .dot with
        | some q => single q r
        | none => none
      | '\\' =>
        match escape? f r with
        | some (e, rest) =>
          match primitive? f e with
          | some q => single q rest
          | none => none
        | none => none
      | _ =>
        if c == Char.ofNat 0x7B then
          match p.last with
          | none => none
          | some q =>
            match counted? f q r with
            | some (q', rest) => items? fuel f names { p with last := some q' } rest
            | none => none
        else
          match primitive? f (.literal c) with
          | some q => single q r
          | none => none

def deepestNesting : Nat := 250

def parse? (s : List Char) : Option TextRegex :=
  match items? (s.length + 1) .initial [] .start s with
  | some (p, _, []) => if p.depth ≤ deepestNesting && p.regex.fits then some p.regex else none
  | _ => none

def search? (pattern text : List Char) : Option Bool :=
  (parse? pattern).map fun r => r.occursIn text

end ConditionRegistry.Pattern
