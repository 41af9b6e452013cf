import ConditionRegistry.Http.MediaType
import ConditionRegistry.Http.Message
import ConditionRegistry.Http.Path
import ConditionRegistry.Json.Fields
import ConditionRegistry.Json.Scalars
import ConditionRegistry.Service

set_option autoImplicit false

/-!
# Endpoints

A request is answered at once, or it asks the service for one operation and its response is read off
the answer. An answer that was broken off has no response.

The bodies that are read are JSON of at most 2 MB: that is the limit of the framework, and no route
sets another. Bodies come as texts, so bytes that are none do not occur. Where the framework refuses
a request by itself, the statuses are its own and the texts are not.
-/

namespace ConditionRegistry.Http
open Json

inductive Reaction where
  | respond (r : Response)
  | ask (o : Operation) (response : Answer Outcome → Option Response)

def outcomeBody : Outcome → Response
  | .id s => textResponse 200 s
  | .record e => jsonResponse 200 e.json
  | .records es => jsonResponse 200 ('[' :: (commas (es.map Record.json) ++ [']']))
  | .truth b => jsonResponse 200 (boolText b)
  | .valid => jsonResponse 200 (objectText [("valid", boolText true)])

/-- The response to an operation whose faults are told by `onFault`. -/
def respondWith (onFault : Fault → Response) : Answer Outcome → Option Response
  | .ok o => some (outcomeBody o)
  | .error (.fault f) => some (onFault f)
  | .error .broken => none

def badRequest (message : String) : Reaction := .respond (errorResponse 400 message)

/-- The bytes that a body may have. No route has a limit of its own. -/
def bodyLimit : Nat := 2097152

def tooLong : Response := textResponse 413 "the body is too long"

def withFields {α : Type} (q : Request) (names : List String) (read : Reader α)
    (next : (String → Option α) → Reaction) : Reaction :=
  if !(q.mediaType.any fun t => isJsonMedia t.toList) then
    .respond (textResponse 415 "a JSON body is expected")
  else if bodyLimit < q.body.utf8ByteSize then
    .respond tooLong
  else
    match readFields names read q.body.toList with
    | .ok found => next fun name => found.lookup name
    | .error .syntaxError => .respond (textResponse 400 "the body is not JSON")
    | .error .wrongShape => .respond (textResponse 422 "the body has the wrong shape")

def visible? (s : Option String) : Option String :=
  s.bind fun t => if isBlankText t then none else some t

def save (fresh : String) (q : Request) : Reaction :=
  withFields q ["name", "expression"] (optional stringField) fun find =>
    match visible? (find "name").join with
    | none => badRequest "Name cannot be blank"
    | some name =>
      match visible? (find "expression").join with
      | none => badRequest "Expression cannot be blank"
      | some text => .ask (.save fresh name text) (respondWith faultResponse)

/-- Here a fault of the evaluation itself is told as such. -/
def evaluationFault (f : Fault) : Response :=
  if f.kind = .evaluation then errorResponse 500 ("Error during evaluation: " ++ f.text)
  else faultResponse f

def evaluate (q : Request) : Reaction :=
  withFields q ["id", "variables"] (optional anyField) fun find =>
    match (find "id").join, (find "variables").join with
    | some id, some given =>
      match id with
      | .string id =>
        match given with
        | .object members =>
          match bindingsOfJson members with
          | .ok b => .ask (.evaluate id b) (respondWith evaluationFault)
          | .error f => .respond (faultResponse f)
        | _ => badRequest "Field 'variables' must be a JSON object"
      | _ => badRequest "Field 'id' must be a string"
    | _, _ => badRequest "Missing required fields: 'id' or 'variables'"

/-- A refusal is the answer that was asked for. -/
def validationFault (f : Fault) : Response :=
  if f.kind = .invalidArgument ∨ f.kind = .invalidSyntax then
    jsonResponse 200 (objectText [("valid", boolText false), ("error", quoted f.text)])
  else faultResponse f

def validate (q : Request) : Reaction :=
  withFields q ["expression"] (optional stringField) fun find =>
    .ask (.validate ((find "expression").join.getD "")) (respondWith validationFault)

def healthy : Response :=
  jsonResponse 200 (objectText
    [("status", quoted "healthy"), ("service", quoted "expression-service")])

def getRecord (segment : List Char) : Reaction :=
  match decodeSegment? segment with
  | some id => .ask (.get id) (respondWith faultResponse)
  | none => .respond (textResponse 400 "the path is not UTF-8")

/-- Routes for reading answer GET and HEAD; the others answer POST. -/
def Route.isReading : Route → Bool
  | .health | .record _ | .all => true
  | .save | .evaluate | .validate => false

def Route.methods (r : Route) : String := if r.isReading then "GET,HEAD" else "POST"

def Route.reaction (fresh : String) (q : Request) : Route → Reaction
  | .health => .respond healthy
  | .record segment => getRecord segment
  | .all => .ask .list (respondWith faultResponse)
  | .save => Http.save fresh q
  | .evaluate => Http.evaluate q
  | .validate => Http.validate q

def Response.withoutBody (r : Response) : Response := { r with body := "" }

def Reaction.withoutBody : Reaction → Reaction
  | .respond r => .respond r.withoutBody
  | .ask o response => .ask o fun a => (response a).map Response.withoutBody

/-- The reaction to a request; `fresh` is the id of a record that it may lead to. -/
def react (fresh : String) (q : Request) : Reaction :=
  let found := route? (pathOf q.target.toList)
  match q.method with
  | .options => .respond (bareResponse 200 (found.map Route.methods))
  | m =>
    match found with
    | none => .respond (bareResponse 404 none)
    | some r =>
      if m = .get ∧ r.isReading ∨ m = .post ∧ !r.isReading then r.reaction fresh q
      else if m = .head ∧ r.isReading then (r.reaction fresh q).withoutBody
      else .respond (bareResponse 405 (some r.methods))

def Reaction.run {σ : Type} (step : Operation → σ → Answer Outcome × σ) (s : σ) :
    Reaction → Option Response × σ
  | .respond r => (some r, s)
  | .ask o response =>
    let (a, t) := step o s
    (response a, t)

def serve {σ : Type} (step : Operation → σ → Answer Outcome × σ) (fresh : String) (q : Request)
    (s : σ) : Option Response × σ :=
  (react fresh q).run step s

end ConditionRegistry.Http
