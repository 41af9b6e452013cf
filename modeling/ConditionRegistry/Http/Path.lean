import ConditionRegistry.Text.Bytes

set_option autoImplicit false

/-!
# Paths and routes

Paths are compared as they are written. Only the segment that is an id is decoded, after it has been
found.
-/

namespace ConditionRegistry.Http
open Text

inductive Route where
  | health
  | save
  /-- the id is not decoded yet -/
  | record (segment : List Char)
  | all
  | evaluate
  | validate
  deriving DecidableEq, Repr

def pathOf (target : List Char) : List Char := target.takeWhile fun c => c != '?' && c != '#'

def recordPrefix : List Char := "/expression/".toList

def route? (path : List Char) : Option Route :=
  let p := String.ofList path
  if p = "/health" then some .health
  else if p = "/expression" then some .save
  else if p = "/all-expressions" then some .all
  else if p = "/evaluate" then some .evaluate
  else if p = "/validate" then some .validate
  else if recordPrefix.isPrefixOf path then
    let segment := path.drop recordPrefix.length
    if segment.isEmpty || segment.contains '/' then none else some (.record segment)
  else none

def hexByte? (b : UInt8) : Option UInt8 :=
  if 48 ≤ b && b ≤ 57 then some (b - 48)
  else if 65 ≤ b && b ≤ 70 then some (b - 55)
  else if 97 ≤ b && b ≤ 102 then some (b - 87)
  else none

def escapedByte? : List UInt8 → Option UInt8
  | a :: b :: _ => do
    let a ← hexByte? a
    let b ← hexByte? b
    some (16 * a + b)
  | _ => none

/-- Escapes that are not followed by two digits stay as they are. The first `skip` bytes belong to
    an escape. -/
def unescape : Nat → List UInt8 → List UInt8
  | _, [] => []
  | skip + 1, _ :: r => unescape skip r
  | 0, b :: r =>
    if b == 37 then
      match escapedByte? r with
      | some d => d :: unescape 2 r
      | none => b :: unescape 0 r
    else b :: unescape 0 r

def decodeSegment? (s : List Char) : Option String :=
  (textOf? (unescape 0 (bytesOf s))).map String.ofList

end ConditionRegistry.Http
