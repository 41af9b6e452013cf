import ConditionRegistry.Entries
import ConditionRegistry.Plan

set_option autoImplicit false

/-!
# Tables of strings and sets

A table holds a string or a set of strings under a key. Strings and sets are apart. Each command is
one step, and a table may refuse commands; a refused command changes nothing.
-/

namespace ConditionRegistry.Registry

structure Table where
  strings : List (String × String)
  /-- the members of each set, ascending -/
  sets : List (String × List String)
  deriving DecidableEq, Repr

inductive Command where
  | get (key : String)
  | set (key value : String)
  /-- put a member into a set -/
  | add (key item : String)
  | members (key : String)
  deriving DecidableEq, Repr

def Command.Reply : Command → Type
  | .get _ => Option String
  | .set _ _ => Unit
  | .add _ _ => Unit
  | .members _ => List String

abbrev TablePlan (α : Type) := Plan Command Command.Reply α

def insertSorted (s : String) : List String → List String
  | [] => [s]
  | t :: r => if s = t then t :: r else if s < t then s :: t :: r else t :: insertSorted s r

namespace Table

def empty : Table := ⟨[], []⟩

def members (t : Table) (key : String) : List String := (t.sets.lookup key).getD []

def set (t : Table) (key value : String) : Table := { t with strings := put key value t.strings }

def add (t : Table) (key item : String) : Table :=
  { t with sets := put key (insertSorted item (t.members key)) t.sets }

def ofContent (strings : List (String × String)) (sets : List (String × List String)) : Table where
  strings := strings.foldl (fun es e => put e.1 e.2 es) []
  sets := sets.foldl (fun es e => put e.1 (e.2.foldl (fun ms m => insertSorted m ms) []) es) []

def handle (refuses : Command → Bool) : Plan.Handler Command Command.Reply Table := fun c t =>
  if refuses c then (.error ⟨.storage, "refused"⟩, t)
  else
    match c with
    | .get k => (.ok (t.strings.lookup k), t)
    | .set k v => (.ok (), t.set k v)
    | .add k m => (.ok (), t.add k m)
    | .members k => (.ok (t.members k), t)

end Table

end ConditionRegistry.Registry
