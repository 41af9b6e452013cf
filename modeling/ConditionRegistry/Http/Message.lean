import ConditionRegistry.Fault
import ConditionRegistry.Json.Printer

set_option autoImplicit false

/-!
# Requests and responses
-/

namespace ConditionRegistry.Http
open Json

inductive Method where
  | get
  | head
  | post
  | options
  | other (name : String)
  deriving DecidableEq, Repr

def Method.ofName (s : String) : Method :=
  if s = "GET" then .get
  else if s = "HEAD" then .head
  else if s = "POST" then .post
  else if s = "OPTIONS" then .options
  else .other s

structure Request where
  method : Method
  /-- path and query -/
  target : String
  mediaType : Option String
  body : String
  deriving DecidableEq, Repr

structure Response where
  status : Nat
  mediaType : Option String
  /-- the methods of the route, where they are told -/
  allow : Option String
  body : String
  deriving DecidableEq, Repr

/-- Any origin may read any response. -/
def Response.allowedOrigin (_ : Response) : String := "*"

def jsonMedia : String := "application/json"
def textMedia : String := "text/plain; charset=utf-8"

def jsonResponse (status : Nat) (body : List Char) : Response :=
  ⟨status, some jsonMedia, none, String.ofList body⟩

def textResponse (status : Nat) (body : String) : Response := ⟨status, some textMedia, none, body⟩

def bareResponse (status : Nat) (allow : Option String) : Response := ⟨status, none, allow, ""⟩

def errorResponse (status : Nat) (message : String) : Response :=
  jsonResponse status (objectText [("error", quoted message)])

def statusOf : FaultKind → Nat
  | .invalidArgument | .invalidSyntax => 400
  | .notFound => 404
  | .evaluation | .storage | .internal | .json | .other => 500

def faultResponse (f : Fault) : Response := errorResponse (statusOf f.kind) f.text

end ConditionRegistry.Http
