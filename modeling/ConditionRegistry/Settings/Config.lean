import ConditionRegistry.Decimal.Integer
import ConditionRegistry.Settings.EnvFile
import ConditionRegistry.Text.Bytes
import ConditionRegistry.Text.Lowercase

set_option autoImplicit false

/-!
# Settings

Where the service listens and where it keeps its records. A variable whose bytes are no text counts
as not set.
-/

namespace ConditionRegistry.Settings
open Decimal Text

inductive Backend where
  | memory
  | redis
  deriving DecidableEq, Repr

structure Config where
  host : String
  port : Nat
  backend : Backend
  redisUrl : String
  deriving DecidableEq, Repr

def Config.address (c : Config) : String :=
  c.host ++ ":" ++ String.ofList (integerText c.port)

inductive ConfigFault where
  | port (e : IntegerFault)
  /-- the name as it was compared -/
  | backend (name : String)
  | portZero
  deriving DecidableEq, Repr

def ConfigFault.message : ConfigFault → String
  | .port e => "Invalid API_PORT: " ++ e.message
  | .backend name =>
    "Invalid STORAGE_BACKEND: Unknown STORAGE_BACKEND '" ++ name ++
      "', expected 'memory' or 'redis'"
  | .portZero => "API_PORT must be greater than 0"

abbrev Environment := List (String × List UInt8)

def Environment.texts (env : Environment) : Variables :=
  env.filterMap fun e => (textOf? e.2).map fun t => (e.1, String.ofList t)

def portOf (s : String) : Except ConfigFault Nat :=
  match integerOfText 0 65535 s.toList with
  | .ok n => .ok n.toNat
  | .error e => .error (.port e)

def backendOf (s : String) : Except ConfigFault Backend :=
  let name := String.ofList (lowercase (trim s.toList))
  if name = "memory" then .ok .memory
  else if name = "redis" then .ok .redis
  else .error (.backend name)

/-- The settings that variables make. That the port is not zero is checked last. -/
def Config.ofVariables (vars : Variables) : Except ConfigFault Config := do
  let get (name default : String) : String := (vars.lookup name).getD default
  let port ← portOf (get "API_PORT" "8080")
  let backend ← backendOf (get "STORAGE_BACKEND" "memory")
  if port = 0 then .error .portZero
  else
    .ok ⟨get "API_HOST" "0.0.0.0", port, backend, get "REDIS_URL" "redis://127.0.0.1:6379"⟩

def Config.load (env : Environment) (file : List Char) : Except ConfigFault Config :=
  Config.ofVariables (Settings.load (linesOf file) env.texts)

end ConditionRegistry.Settings
