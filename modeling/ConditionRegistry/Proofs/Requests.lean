import ConditionRegistry.Http.Endpoint
import ConditionRegistry.Proofs.Ledger
import ConditionRegistry.Proofs.RecordText

set_option autoImplicit false

/-!
# Requests

A request asks the service for one operation at most, so requests leave a store that operations
leave.
-/

namespace ConditionRegistry.Http
open Json Registry

structure Request.Posts (q : Request) (r : Route) : Prop where
  method : q.method = .post
  route : route? (pathOf q.target.toList) = some r
  json : (q.mediaType.any fun t => isJsonMedia t.toList) = true

/-- The body of a request is short enough to be read. -/
def Request.Fits (q : Request) : Prop := q.body.utf8ByteSize ≤ bodyLimit

instance (q : Request) : Decidable q.Fits :=
  inferInstanceAs (Decidable (q.body.utf8ByteSize ≤ bodyLimit))

section Posts
variable {q : Request} {r : Route} (h : q.Posts r)
include h

theorem react_of_posts (hr : r.isReading = false) (fresh : String) :
    react fresh q = r.reaction fresh q := by
  simp [react, h.method, h.route, hr]

theorem withFields_of_read {α : Type} {names : List String} {read : Reader α} {found : Found α}
    (hfits : q.Fits) (hread : readFields names read q.body.toList = .ok found)
    (next : (String → Option α) → Reaction) :
    withFields q names read next = next fun name => found.lookup name := by
  have hlimit : ¬ bodyLimit < q.body.utf8ByteSize := Nat.not_lt.2 hfits
  simp [withFields, h.json, hlimit, hread]

theorem withFields_of_not_fits {α : Type} (hlong : ¬ q.Fits) (names : List String)
    (read : Reader α) (next : (String → Option α) → Reaction) :
    withFields q names read next = .respond tooLong := by
  have hlimit : bodyLimit < q.body.utf8ByteSize := Nat.not_le.1 hlong
  simp [withFields, h.json, hlimit]

theorem react_of_not_fits (hr : r.isReading = false) (hlong : ¬ q.Fits) (fresh : String) :
    react fresh q = .respond tooLong := by
  rw [react_of_posts h hr, Route.reaction.eq_def]
  cases r with
  | save => exact withFields_of_not_fits h hlong _ _ _
  | evaluate => exact withFields_of_not_fits h hlong _ _ _
  | validate => exact withFields_of_not_fits h hlong _ _ _
  | _ => cases hr

end Posts

/-! ### Bodies of strings -/

def Request.given? (q : Request) (names : List String) (name : String) : Option String :=
  (readFields names (optional stringField) q.body.toList).toOption.bind fun found =>
    (found.lookup name).join

def postOf (target : String) (ms : List (String × String)) : Request :=
  ⟨.post, target, some jsonMedia, String.ofList (objectText (ms.map fun m => (m.1, quoted m.2)))⟩

theorem isJsonMedia_jsonMedia : isJsonMedia jsonMedia.toList = true := by
  decide

theorem posts_postOf {target : String} {r : Route} (h : route? (pathOf target.toList) = some r)
    (ms : List (String × String)) : (postOf target ms).Posts r :=
  ⟨rfl, h, isJsonMedia_jsonMedia⟩

theorem given?_postOf {names : List String} {ms : List (String × String)} (hne : ms ≠ [])
    (hnames : ∀ m ∈ ms, m.1 ∈ names) (hnodup : (ms.map Prod.fst).Nodup) (target name : String) :
    (postOf target ms).given? names name =
      ((ms.map fun m => (m.1, some m.2)).reverse.lookup name).join := by
  rw [Request.given?, postOf, String.toList_ofList,
    readFields_objectText Reads.optional hne hnames hnodup]
  rfl

theorem read_of_given? {q : Request} {names : List String} {name s : String}
    (h : q.given? names name = some s) :
    ∃ found, readFields names (optional stringField) q.body.toList = .ok found ∧
      (found.lookup name).join = some s := by
  rw [Request.given?] at h
  cases hread : readFields names (optional stringField) q.body.toList with
  | error e =>
    rw [hread] at h
    cases h
  | ok found =>
    rw [hread] at h
    exact ⟨found, rfl, h⟩

/-! ### What requests leave -/

def Reaction.operation? : Reaction → Option Operation
  | .respond _ => none
  | .ask o _ => some o

/-- The store after requests to an empty one. Each request comes with the id that it may use. -/
def served (E : Engine) (qs : List (String × Request)) : Memory :=
  qs.foldl (fun m q => (serve (stepMemory E) q.1 q.2 m).2) Memory.empty

theorem served_eq_after (E : Engine) (qs : List (String × Request)) :
    served E qs = Memory.after E (qs.filterMap fun q => (react q.1 q.2).operation?) := by
  unfold served Memory.after
  generalize Memory.empty = m
  induction qs generalizing m with
  | nil => rfl
  | cons q qs ih =>
    rw [List.foldl_cons, List.filterMap_cons, ih, serve]
    cases react q.1 q.2 <;> rfl

end ConditionRegistry.Http
