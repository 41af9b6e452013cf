import ConditionRegistry.Json.Scan

set_option autoImplicit false

/-!
# Reading JSON values

Arrays and objects may stand in each other up to a given depth. What is passed over may be nested
without a bound, and its strings and numbers need not stand for anything.
-/

namespace ConditionRegistry.Json

def itemsAfter {α : Type} (item : Scan α) : Nat → Scan (List α)
  | 0, _ => none
  | fuel + 1, s =>
    match item (skipSpace s) with
    | none => none
    | some (a, r) =>
      match skipSpace r with
      | ',' :: r' => (itemsAfter item fuel r').map fun p => (a :: p.1, p.2)
      | ']' :: r' => some ([a], r')
      | _ => none

def items {α : Type} (item : Scan α) : Scan (List α) := fun s =>
  match skipSpace s with
  | ']' :: r => some ([], r)
  | r => itemsAfter item r.length r

def memberName {κ : Type} (key : Scan κ) : Scan κ
  | '"' :: r => key r
  | _ => none

def colon : Scan Unit := fun s => word [':'] (skipSpace s)

def member {κ α : Type} (key : Scan κ) (item : Scan α) : Scan (κ × α) := fun s =>
  match memberName key s with
  | none => none
  | some (k, r) =>
    match colon r with
    | none => none
    | some (_, r') => (item (skipSpace r')).map fun p => ((k, p.1), p.2)

def membersAfter {κ α : Type} (key : Scan κ) (item : Scan α) : Nat → Scan (List (κ × α))
  | 0, _ => none
  | fuel + 1, s =>
    match member key item (skipSpace s) with
    | none => none
    | some (m, r) =>
      match skipSpace r with
      | ',' :: r' => (membersAfter key item fuel r').map fun p => (m :: p.1, p.2)
      | c :: r' => if c == Char.ofNat 0x7D then some ([m], r') else none
      | [] => none

def members {κ α : Type} (key : Scan κ) (item : Scan α) : Scan (List (κ × α)) := fun s =>
  match skipSpace s with
  | c :: r =>
    if c == Char.ofNat 0x7D then some ([], r) else membersAfter key item (r.length + 1) (c :: r)
  | [] => none

def isOpenBrace (c : Char) : Bool := c == Char.ofNat 0x7B

def constant (w : List Char) (v : Value) : Scan Value := fun s => (word w s).map fun p => (v, p.2)

/-- Values in which at most `depth` arrays and objects stand in each other. -/
def value : Nat → Scan Value
  | depth, s =>
    match s with
    | [] => none
    | c :: r =>
      match c with
      | 'n' => constant ['u', 'l', 'l'] .null r
      | 't' => constant ['r', 'u', 'e'] (.bool true) r
      | 'f' => constant ['a', 'l', 's', 'e'] (.bool false) r
      | '"' => (content r).map fun p => (.string (String.ofList p.1), p.2)
      | '[' =>
        match depth with
        | 0 => none
        | d + 1 => (items (value d) r).map fun p => (.array p.1, p.2)
      | _ =>
        if isOpenBrace c then
          match depth with
          | 0 => none
          | d + 1 =>
            (members (κ := List Char) content (value d) r).map fun p =>
              (.object (sortMembers (p.1.map fun m => (String.ofList m.1, m.2))), p.2)
        else (number s).map fun p => (.number p.1, p.2)

def pass : Nat → Scan Unit
  | depth, s =>
    match s with
    | [] => none
    | c :: r =>
      match c with
      | 'n' => word ['u', 'l', 'l'] r
      | 't' => word ['r', 'u', 'e'] r
      | 'f' => word ['a', 'l', 's', 'e'] r
      | '"' => passContent 0 r
      | '[' =>
        match depth with
        | 0 => none
        | d + 1 => (items (pass d) r).map fun p => ((), p.2)
      | _ =>
        if isOpenBrace c then
          match depth with
          | 0 => none
          | d + 1 => (members (passContent 0) (pass d) r).map fun p => ((), p.2)
        else passNumber s

def maxDepth : Nat := 127

def read? (s : List Char) : Option Value :=
  match value maxDepth (skipSpace s) with
  | some (v, r) => if (skipSpace r).isEmpty then some v else none
  | none => none

end ConditionRegistry.Json
