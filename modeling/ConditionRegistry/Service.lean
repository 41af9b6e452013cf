import ConditionRegistry.Registry.Keyed
import ConditionRegistry.Registry.Memory
import ConditionRegistry.Text.Blank
import ConditionRegistry.Validation

set_option autoImplicit false

/-!
# The service

Saving a condition that is already there gives its id back, under whatever name and in whatever
writing it comes. The lookup and the insertion are two calls to the store.
-/

namespace ConditionRegistry
open Registry

def isBlankText (s : String) : Bool := Text.isAllBlank s.toList

def ofCheck {α : Type} : Except Refusal α → Answer α
  | .ok a => .ok a
  | .error r => .error (.fault r.fault)

namespace Service

def accept (E : Engine) (raw : String) : Except Refusal String := do
  let text ← normalize raw
  checkNormal E text
  .ok text

/-- `fresh` is the id that the record gets if it is new. -/
def save (E : Engine) (fresh name raw : String) : StorePlan String :=
  if isBlankText name then Plan.fail .invalidArgument "Name cannot be blank"
  else
    (Plan.ofAnswer (ofCheck (accept E raw))).bind fun text =>
      .call (.findText text) fun (found : Option Record) =>
        match found with
        | some e => .done e.id
        | none => .call (.insert ⟨fresh, name, text⟩) fun (e : Record) => .done e.id

def get (id : String) : StorePlan Record :=
  .call (.findId id) fun (found : Option Record) =>
    match found with
    | some e => .done e
    | none => Plan.fail .notFound id

def list : StorePlan (List Record) := .call .list fun (es : List Record) => .done es

/-- The condition is looked up before the bindings are looked at. -/
def evaluate (E : Engine) (id : String) (b : Bindings) : StorePlan Bool :=
  if id.isEmpty then Plan.fail .invalidArgument "ID cannot be null or empty"
  else (get id).bind fun e => Plan.ofAnswer (ConditionRegistry.evaluate E e.text b)

def validate (E : Engine) (raw : String) : Answer Unit := ofCheck (check E raw)

end Service

/-- What can be asked of the service. A save brings the id for the case that it needs one. -/
inductive Operation where
  | save (fresh name raw : String)
  | get (id : String)
  | list
  | evaluate (id : String) (b : Bindings)
  | validate (raw : String)

inductive Outcome where
  | id (s : String)
  | record (e : Record)
  | records (es : List Record)
  | truth (b : Bool)
  | valid
  deriving DecidableEq, Repr

def Operation.plan (E : Engine) : Operation → StorePlan Outcome
  | .save fresh name raw => (Service.save E fresh name raw).bind fun id => .done (.id id)
  | .get id => (Service.get id).bind fun e => .done (.record e)
  | .list => Service.list.bind fun es => .done (.records es)
  | .evaluate id b => (Service.evaluate E id b).bind fun t => .done (.truth t)
  | .validate raw => (Plan.ofAnswer (Service.validate E raw)).bind fun _ => .done .valid

def runAll {σ : Type} (step : Operation → σ → Answer Outcome × σ) :
    List Operation → σ → List (Answer Outcome) × σ
  | [], s => ([], s)
  | o :: r, s =>
    let (a, t) := step o s
    let (as, u) := runAll step r t
    (a :: as, u)

open Registry in
def stepMemory (E : Engine) (o : Operation) (m : Memory) : Answer Outcome × Memory :=
  (o.plan E).run Memory.handle m

open Registry in
def stepTable (E : Engine) (refuses : Command → Bool) (o : Operation) (t : Table) :
    Answer Outcome × Table :=
  ((o.plan E).lower Keyed.carry).run (Table.handle refuses) t

end ConditionRegistry
