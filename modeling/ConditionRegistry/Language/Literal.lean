import ConditionRegistry.Decimal.Integer
import ConditionRegistry.Language.Token
import ConditionRegistry.Text.Bytes

set_option autoImplicit false

/-!
# Values of literals

Strings are read character by character. A quote that does not belong to the content closes or opens
a part of the string; the content is what stands inside the parts, and nothing may stand between
them. So the three marks around a triple-quoted string add two empty parts to it.
-/

namespace ConditionRegistry.Language
open Decimal Text

inductive Literal where
  | int (n : Int64)
  | uint (n : UInt64)
  | float (x : Float)
  | string (s : String)
  | bytes (bs : List UInt8)
  | bool (b : Bool)
  | null
  deriving Repr

def hexValue (c : Char) : Nat :=
  if c.isDigit then c.toNat - 48 else if c.toNat < 97 then c.toNat - 55 else c.toNat - 87

def valueIn (base : Nat) (ds : List Char) : Nat := ds.foldl (fun n c => base * n + hexValue c) 0

def integerLiteral? (negative : Bool) (text : List Char) : Option Literal :=
  match text with
  | '0' :: 'x' :: ds => if negative then none else (int64? (valueIn 16 ds)).map .int
  | ds => (int64? (if negative then -(valueOf ds : Int) else valueOf ds)).map .int

def unsignedLiteral? (text : List Char) : Option Literal :=
  match text with
  | '0' :: 'x' :: ds => (uint64? (valueIn 16 ds)).map .uint
  | ds => (uint64? (valueOf ds)).map .uint

def floatLiteral? (negative : Bool) (text : List Char) : Option Literal :=
  match floatOfText? text with
  | some x => if x.isFinite then some (.float (if negative then -x else x)) else none
  | none => none

def scalar? (n : Nat) : Option Char := if n.isValidChar then some (Char.ofNat n) else none

/-- The content that an escape stands for, and how many characters of the escape follow its
    backslash. A mark of the other kind keeps its backslash. -/
def escape? (mark : Char) : List Char → Option (List Char × Nat)
  | [] => none
  | c :: r =>
    let point (base n skip : Nat) : Option (List Char × Nat) :=
      (scalar? (valueIn base ((c :: r).drop skip |>.take n))).map fun d => ([d], skip + n)
    let control (n : Nat) : Option (List Char × Nat) := some ([Char.ofNat n], 1)
    if c == 'a' then control 7
    else if c == 'b' then control 8
    else if c == 't' then control 9
    else if c == 'n' then control 10
    else if c == 'v' then control 11
    else if c == 'f' then control 12
    else if c == 'r' then control 13
    else if c == '"' || c == '\'' then some (if c == mark then [c] else ['\\', c], 1)
    else if c == '\\' || c == '?' || c == Char.ofNat 96 then some ([c], 1)
    else if c == 'x' then point 16 2 1
    else if c == 'u' then point 16 4 1
    else if c == 'U' then point 16 8 1
    else if isOctalDigit c then point 8 3 0
    else none

def isMark (c : Char) : Bool := c == '"' || c == '\''

/-- `part` is the mark of the part that is open. The first `skip` characters belong to an escape. -/
def content? : Nat → Option Char → List Char → Option (List Char)
  | _, _, [] => some []
  | skip + 1, part, _ :: r => content? skip part r
  | 0, none, c :: r => if isMark c then content? 0 (some c) r else none
  | 0, some m, c :: r =>
    if c == '\\' then
      match escape? m r with
      | some (cs, k) => (content? k (some m) r).map (cs ++ ·)
      | none => none
    else if c == m then content? 0 none r
    else (content? 0 (some m) r).map (c :: ·)

/-- A backslash belongs to the content, except before the mark of the open part. -/
def rawContent? : Option Char → List Char → Option (List Char)
  | _, [] => some []
  | none, c :: r => if isMark c then rawContent? (some c) r else none
  | some m, '\\' :: c :: r =>
    (rawContent? (some m) r).map ((if c == m then [c] else ['\\', c]) ++ ·)
  | some m, c :: r =>
    if c == '\\' then none
    else if c == m then rawContent? none r
    else (rawContent? (some m) r).map (c :: ·)

def stringLiteral? : List Char → Option Literal
  | c :: r =>
    (if c == 'r' || c == 'R' then rawContent? none r else content? 0 (some c) r).map
      fun cs => .string (String.ofList cs)
  | [] => none

def byteIn? (base : Nat) (ds : List Char) : Option UInt8 :=
  let ds := match ds with
    | '+' :: d :: r => d :: r
    | _ => ds
  if !ds.isEmpty ∧ ds.all (fun c => isHexDigit c && hexValue c < base) ∧ valueIn base ds < 256 then
    some (UInt8.ofNat (valueIn base ds))
  else none

/-- The byte of an escape, from the three characters after its backslash: the mark of a hexadecimal
    number and two characters of it, or three octal digits. -/
def byteEscape? : List Char → Option UInt8
  | a :: b :: c :: _ =>
    if a == 'x' then byteIn? 16 [b, c]
    else if '0' ≤ a && a ≤ '3' then byteIn? 8 [a, b, c]
    else none
  | _ => none

def byteContent? : Nat → List Char → Option (List UInt8)
  | _, [] => some []
  | skip + 1, _ :: r => byteContent? skip r
  | 0, c :: r =>
    if c != '\\' then (byteContent? 0 r).map (String.utf8EncodeChar c ++ ·)
    else
      match byteEscape? r with
      | some b => (byteContent? 3 r).map (b :: ·)
      | none => none

/-- Prefix and mark are left out at the front and one mark at the end, whatever kind of string it
    is. -/
def bytesLiteral? (text : List Char) : Option Literal :=
  (byteContent? 0 (text.drop 2).dropLast).map .bytes

end ConditionRegistry.Language
