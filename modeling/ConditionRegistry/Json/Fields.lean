import ConditionRegistry.Json.Reader

set_option autoImplicit false

/-!
# Reading fields

A text is read as fields with given names, from an object, or from an array that has the fields in
their order. It can fail in two ways: it is not JSON, or it is JSON of the wrong shape. The text is
read once from left to right, and the first fault that shows decides which of the two it is.
-/

namespace ConditionRegistry.Json

inductive Flaw where
  /-- not JSON -/
  | syntaxError
  /-- JSON of the wrong shape -/
  | wrongShape
  deriving DecidableEq, Repr

abbrev Reader (α : Type) := List Char → Except Flaw (α × List Char)

def orSyntax {α : Type} (r : Option (α × List Char)) : Except Flaw (α × List Char) :=
  match r with
  | some p => .ok p
  | none => .error .syntaxError

/-- The flaw of a value of another kind than is wanted. A scalar must be well formed to have any
    kind; an array or object is not looked into. -/
def otherKind (s : List Char) : Flaw :=
  let scalar (r : Option (Unit × List Char)) : Flaw :=
    match r with
    | some _ => .wrongShape
    | none => .syntaxError
  match s with
  | [] => .syntaxError
  | c :: r =>
    match c with
    | 'n' => scalar (word ['u', 'l', 'l'] r)
    | 't' => scalar (word ['r', 'u', 'e'] r)
    | 'f' => scalar (word ['a', 'l', 's', 'e'] r)
    | '"' => scalar ((content r).map fun p => ((), p.2))
    | '[' => .wrongShape
    | _ =>
      if isOpenBrace c then .wrongShape else scalar ((number s).map fun p => ((), p.2))

def stringField : Reader String := fun s =>
  match s with
  | '"' :: r => orSyntax ((content r).map fun p => (String.ofList p.1, p.2))
  | _ => .error (otherKind s)

def optional {α : Type} (read : Reader α) : Reader (Option α) := fun s =>
  match s with
  | 'n' :: r => orSyntax ((word ['u', 'l', 'l'] r).map fun p => (none, p.2))
  | _ => (read s).map fun p => (some p.1, p.2)

def anyField : Reader Value := fun s => orSyntax (value (maxDepth - 1) s)

abbrev Found (α : Type) := List (String × α)

/-- One member. Those with other names are passed over; one that has been found before is a flaw
    whatever follows its name. -/
def fieldMember {α : Type} (names : List String) (read : Reader α) (found : Found α) :
    Reader (Found α) := fun s => do
  let (k, r) ← orSyntax (memberName content s)
  let name := String.ofList k
  if names.contains name && (found.lookup name).isSome then .error .wrongShape
  else
    let (_, r) ← orSyntax (colon r)
    if names.contains name then
      let (v, r') ← read (skipSpace r)
      .ok ((name, v) :: found, r')
    else
      let (_, r') ← orSyntax (pass r.length (skipSpace r))
      .ok (found, r')

def fieldsAfter {α : Type} (names : List String) (read : Reader α) :
    Nat → Found α → Reader (Found α)
  | 0, _, _ => .error .syntaxError
  | fuel + 1, found, s => do
    let (found', r) ← fieldMember names read found (skipSpace s)
    match skipSpace r with
    | ',' :: r' => fieldsAfter names read fuel found' r'
    | c :: r' => if c == Char.ofNat 0x7D then .ok (found', r') else .error .syntaxError
    | [] => .error .syntaxError

/-- The fields of an array, one for each name; `first` holds before the first item only. Items that
    are missing are not found; there may not be more items than names. -/
def fieldItems {α : Type} (read : Reader α) : List String → Bool → Reader (Found α)
  | names, first, s =>
    match names, skipSpace s with
    | _, [] => .error .syntaxError
    | [], c :: r => if c == ']' then .ok ([], r) else .error .syntaxError
    | n :: names, c :: r =>
      if c == ']' then .ok ([], r)
      else
        let next : Except Flaw (List Char) :=
          if first then .ok (c :: r)
          else if c == ',' then
            if (skipSpace r).head? == some ']' then .error .syntaxError else .ok r
          else .error .syntaxError
        do
          let (v, r') ← read (skipSpace (← next))
          let (found, r'') ← fieldItems read names false r'
          .ok ((n, v) :: found, r'')

def fields {α : Type} (names : List String) (read : Reader α) : Reader (Found α) := fun s =>
  match s with
  | [] => .error .syntaxError
  | c :: r =>
    if c == '[' then fieldItems read names true r
    else if isOpenBrace c then
      match skipSpace r with
      | d :: r' =>
        if d == Char.ofNat 0x7D then .ok ([], r')
        else fieldsAfter names read (r.length + 1) [] (d :: r')
      | [] => .error .syntaxError
    else .error (otherKind s)

def readFields {α : Type} (names : List String) (read : Reader α) (s : List Char) :
    Except Flaw (Found α) :=
  match fields names read (skipSpace s) with
  | .ok (found, r) => if (skipSpace r).isEmpty then .ok found else .error .syntaxError
  | .error e => .error e

end ConditionRegistry.Json
