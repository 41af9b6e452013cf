import ConditionRegistry.Pattern.Named
import ConditionRegistry.Pattern.Regex

set_option autoImplicit false

/-!
# Escapes in patterns

What stands for one character, a set or an anchor after a backslash, under the flags of the place
where it stands.
-/

namespace ConditionRegistry.Pattern
open Text

structure Flags where
  ignoreCase : Bool
  multiLine : Bool
  dotNewline : Bool
  swapGreed : Bool
  unicode : Bool
  crlf : Bool
  extended : Bool
  deriving DecidableEq, Repr

def Flags.initial : Flags := ⟨false, false, false, false, true, false, false⟩

def Flags.set? (f : Flags) (c : Char) (on : Bool) : Option Flags :=
  match c with
  | 'i' => some { f with ignoreCase := on }
  | 'm' => some { f with multiLine := on }
  | 's' => some { f with dotNewline := on }
  | 'U' => some { f with swapGreed := on }
  | 'u' => some { f with unicode := on }
  | 'R' => some { f with crlf := on }
  | 'x' => some { f with extended := on }
  | _ => none

def skipBlanks : Bool → List Char → List Char
  | _, [] => []
  | true, c :: r => skipBlanks (c != '\n') r
  | false, c :: r =>
    if isBlank c then skipBlanks false r
    else if c == '#' then skipBlanks true r
    else c :: r

def Flags.skip (f : Flags) (s : List Char) : List Char :=
  if f.extended then skipBlanks false s else s

inductive Primitive where
  | literal (c : Char)
  | set (s : Ranges)
  | anchor (a : Anchor)
  | dot

def isHex (c : Char) : Bool := c.isDigit || ('a' ≤ c && c ≤ 'f') || ('A' ≤ c && c ≤ 'F')

def hexDigit (c : Char) : Nat :=
  if c.isDigit then c.toNat - 48 else if c.toNat < 97 then c.toNat - 55 else c.toNat - 87

def hexNumber (ds : List Char) : Nat := ds.foldl (fun n c => 16 * n + hexDigit c) 0

/-- The character of a number, which is no byte of another when only bytes are meant. -/
def scalarOf? (f : Flags) (n : Nat) : Option Primitive :=
  if n.isValidChar && (f.unicode || n < 0x80) then some (.literal (Char.ofNat n)) else none

def fixedHex? (f : Flags) : Nat → List Char → Option (List Char × List Char)
  | 0, s => some ([], s)
  | n + 1, s =>
    match f.skip s with
    | c :: r => if isHex c then (fixedHex? f n r).map fun p => (c :: p.1, p.2) else none
    | [] => none

def braced? (f : Flags) : Nat → List Char → Option (List Char × List Char)
  | 0, _ => none
  | fuel + 1, s =>
    match f.skip s with
    | c :: r =>
      if c == Char.ofNat 0x7D then some ([], r)
      else (braced? f fuel r).map fun p => (c :: p.1, p.2)
    | [] => none

def hexEscape? (f : Flags) (n : Nat) (s : List Char) : Option (Primitive × List Char) :=
  match f.skip s with
  | c :: r =>
    if c == Char.ofNat 0x7B then
      match braced? f (r.length + 1) r with
      | some (ds, rest) =>
        if ds.isEmpty || !ds.all isHex then none
        else (scalarOf? f (hexNumber ds)).map fun p => (p, f.skip rest)
      | none => none
    else
      match fixedHex? f n (c :: r) with
      | some (ds, rest) => (scalarOf? f (hexNumber ds)).map fun p => (p, f.skip rest)
      | none => none
  | [] => none

def oneChar (c : Char) : Ranges := [(c.toNat, c.toNat)]

def Flags.fold (f : Flags) (s : Ranges) : Ranges := if f.ignoreCase then s.anyCase else s

def negateIf (negated : Bool) (s : Ranges) : Ranges := if negated then s.complement else s

def propertyEscape? (f : Flags) (negated : Bool) (s : List Char) : Option (Primitive × List Char) :=
  if !f.unicode then none else
    match f.skip s with
    | c :: r =>
      if c == Char.ofNat 0x7B then
        match braced? f (r.length + 1) r with
        | some (n, rest) =>
          (namedSet? n).map fun s => (.set (negateIf negated (f.fold s)), rest)
        | none => none
      else if c == '\\' then none
      else
        (namedAlone? (looseName [c])).map fun s => (.set (negateIf negated (f.fold s)), f.skip r)
    | [] => none

def shorthand (f : Flags) (c : Char) : Ranges :=
  if c == 'd' then if f.unicode then decimalRuns else asciiDigit
  else if c == 's' then if f.unicode then blankRanges else asciiSpace
  else if f.unicode then wordSet else asciiWord

def isBoundaryChar (c : Char) : Bool := c.isAlpha || c == '-'

/-- A word boundary may have a kind in braces; a number in braces is a repetition of it. -/
def boundary? (f : Flags) (s : List Char) : Option (Primitive × List Char) :=
  let ascii := !f.unicode
  let plain := some (Primitive.anchor (.wordBoundary ascii), s)
  match s with
  | c :: r =>
    if c == Char.ofNat 0x7B then
      match f.skip r with
      | [] => none
      | d :: _ =>
        if !isBoundaryChar d then plain
        else
          match braced? f (r.length + 1) r with
          | none => none
          | some (kind, rest) =>
            let k := String.ofList kind
            if k == "start" then some (.anchor (.wordStart ascii), rest)
            else if k == "end" then some (.anchor (.wordEnd ascii), rest)
            else if k == "start-half" then some (.anchor (.wordStartHalf ascii), rest)
            else if k == "end-half" then some (.anchor (.wordEndHalf ascii), rest)
            else none
    else plain
  | [] => plain

def isPlainEscape (c : Char) : Bool :=
  c.toNat < 0x80 && !c.isAlphanum && c != '<' && c != '>'

def escape? (f : Flags) : List Char → Option (Primitive × List Char)
  | [] => none
  | c :: r =>
    match c with
    | 'x' => hexEscape? f 2 r
    | 'u' => hexEscape? f 4 r
    | 'U' => hexEscape? f 8 r
    | 'p' => propertyEscape? f false r
    | 'P' => propertyEscape? f true r
    | 'd' => some (.set (shorthand f 'd'), r)
    | 's' => some (.set (shorthand f 's'), r)
    | 'w' => some (.set (shorthand f 'w'), r)
    | 'D' => if f.unicode then some (.set (shorthand f 'd').complement, r) else none
    | 'S' => if f.unicode then some (.set (shorthand f 's').complement, r) else none
    | 'W' => if f.unicode then some (.set (shorthand f 'w').complement, r) else none
    | 'a' => some (.literal (Char.ofNat 7), r)
    | 'f' => some (.literal (Char.ofNat 12), r)
    | 't' => some (.literal '\t', r)
    | 'n' => some (.literal '\n', r)
    | 'r' => some (.literal '\r', r)
    | 'v' => some (.literal (Char.ofNat 11), r)
    | 'A' => some (.anchor .textStart, r)
    | 'z' => some (.anchor .textEnd, r)
    | 'b' => boundary? f r
    | 'B' => some (.anchor (.notWordBoundary (!f.unicode)), r)
    | '<' => some (.anchor (.wordStart (!f.unicode)), r)
    | '>' => some (.anchor (.wordEnd (!f.unicode)), r)
    | _ => if isPlainEscape c then some (.literal c, r) else none

end ConditionRegistry.Pattern
