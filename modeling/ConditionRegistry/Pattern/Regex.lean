import ConditionRegistry.Text.Property

set_option autoImplicit false

/-!
# Regular expressions

A regular expression carries a set of positions of a text to the set of positions where a match
that starts at one of them may end. A set of positions is a number whose bit `i` stands for the
position before the `i`-th character.
-/

namespace ConditionRegistry.Pattern
open Text

/-- What a position must be like. Word characters may be limited to ASCII. -/
inductive Anchor where
  | textStart
  | textEnd
  | lineStart (crlf : Bool)
  | lineEnd (crlf : Bool)
  | wordBoundary (ascii : Bool)
  | notWordBoundary (ascii : Bool)
  | wordStart (ascii : Bool)
  | wordEnd (ascii : Bool)
  | wordStartHalf (ascii : Bool)
  | wordEndHalf (ascii : Bool)
  deriving DecidableEq, Repr

/-- `σ` is what stands for a set of characters, `α` what stands for an anchor. -/
inductive Regex (σ α : Type) where
  | empty
  | char (s : σ)
  | anchor (a : α)
  | seq (r s : Regex σ α)
  | alt (r s : Regex σ α)
  /-- a group whose text could be asked for -/
  | capture (r : Regex σ α)
  /-- without a greatest number of times if `high` is not given -/
  | times (r : Regex σ α) (low : Nat) (high : Option Nat)
  deriving Repr

def isWordAt (ascii : Bool) (c : Option Char) : Bool :=
  match c with
  | some c => if ascii then c.toNat < 0x80 && isWordChar c else isWordChar c
  | none => false

def Anchor.holds (a : Anchor) (before after : Option Char) : Bool :=
  match a with
  | .textStart => before.isNone
  | .textEnd => after.isNone
  | .lineStart false => before.isNone || before == some '\n'
  | .lineStart true =>
    before.isNone || before == some '\n' || (before == some '\r' && after != some '\n')
  | .lineEnd false => after.isNone || after == some '\n'
  | .lineEnd true =>
    after.isNone || after == some '\r' || (after == some '\n' && before != some '\r')
  | .wordBoundary x => isWordAt x before != isWordAt x after
  | .notWordBoundary x => isWordAt x before == isWordAt x after
  | .wordStart x => !isWordAt x before && isWordAt x after
  | .wordEnd x => isWordAt x before && !isWordAt x after
  | .wordStartHalf x => !isWordAt x before
  | .wordEndHalf x => !isWordAt x after

abbrev Places := Nat

def charPlaces (s : Ranges) : List Char → Places
  | [] => 0
  | c :: r => 2 * charPlaces s r + (s.has c).toNat

def anchorPlaces (a : Anchor) : Option Char → List Char → Places
  | before, [] => (a.holds before none).toNat
  | before, c :: r => 2 * anchorPlaces a (some c) r + (a.holds before (some c)).toNat

def Regex.placed (t : List Char) : Regex Ranges Anchor → Regex Places Places
  | .empty => .empty
  | .char s => .char (charPlaces s t)
  | .anchor a => .anchor (anchorPlaces a none t)
  | .seq r s => .seq (r.placed t) (s.placed t)
  | .alt r s => .alt (r.placed t) (s.placed t)
  | .capture r => .capture (r.placed t)
  | .times r low high => .times (r.placed t) low high

def steps (step : Places → Places) : Nat → Places → Places
  | 0, p => p
  | n + 1, p => if p = 0 then 0 else steps step n (step p)

/-- At most `n` steps, fewer when no position is new. -/
def reach (step : Places → Places) : Nat → Places → Places
  | 0, p => p
  | n + 1, p =>
    let q := p ||| step p
    if q = p then p else reach step n q

/-- `size` is the number of positions; no more steps than that can find new ones. -/
def Regex.ends (size : Nat) : Regex Places Places → Places → Places
  | .empty, p => p
  | .char s, p => 2 * (p &&& s)
  | .anchor a, p => p &&& a
  | .seq r s, p => s.ends size (r.ends size p)
  | .alt r s, p => r.ends size p ||| s.ends size p
  | .capture r, p => r.ends size p
  | .times r low none, p => reach (r.ends size) size (steps (r.ends size) low p)
  | .times r low (some high), p =>
    reach (r.ends size) (min size (high - low)) (steps (r.ends size) low p)

def Regex.occursIn (r : Regex Ranges Anchor) (t : List Char) : Bool :=
  let size := t.length + 1
  (r.placed t).ends size (Nat.pow 2 size - 1) != 0

end ConditionRegistry.Pattern
