/-
The record of a finished request and the log events made of it.
-/
import TenantGateway.Request.Context

namespace TenantGateway

/-- how a request ended: with the status of a backend, or with a failure -/
inductive Outcome where
  | success (status : Nat)
  | error (code : ErrorCode)
  deriving DecidableEq, Repr

def Outcome.label : Outcome → String
  | .success _ => "success"
  | .error code => code.name

structure Record where
  requestId : String
  /-- the tenant id as the caller sent it -/
  tenantId : String
  /-- the id of the registered tenant; callers cannot invent labels -/
  tenantLabel : String
  category : String
  stage : String
  remaining : Option Nat
  outcome : Outcome
  /-- nanoseconds from receipt -/
  latency : Nat
  usageLogging : Bool
  tags : List (String × String)
  deriving DecidableEq, Repr

namespace Record

/-- the label of requests whose tenant is not registered -/
def unresolvedTenant : String := "unknown"

/-- the record of a request that ends now -/
def ofContext (c : RequestContext) (outcome : Outcome) (now : Nat) : Record :=
  { requestId := c.requestId
    tenantId := c.tenantId
    tenantLabel := (c.tenant.map (·.id)).getD unresolvedTenant
    category := (c.category.map Category.name).getD "none"
    stage := c.stage.name
    remaining := c.remaining?
    outcome
    latency := now - c.started
    usageLogging := c.tenant.any (·.policy.usageLogging)
    tags := c.tags }

end Record

inductive Level where
  | debug
  | info
  | warn
  deriving DecidableEq, Repr

def Level.name : Level → String
  | .debug => "DEBUG"
  | .info => "INFO"
  | .warn => "WARN"

/-- the value of a field of an event -/
inductive FieldValue where
  | text (value : String)
  | number (value : Int)
  deriving DecidableEq, Repr

/-- a structured log event -/
structure Event where
  level : Level
  target : String
  message : String
  fields : List (String × FieldValue)
  deriving DecidableEq, Repr

namespace Record

/-- the largest signed number of 64 bits -/
def largestSigned : Nat := 0x7FFFFFFFFFFFFFFF

/-- the largest unsigned number of 64 bits -/
def largestUnsigned : Nat := 0xFFFFFFFFFFFFFFFF

def latencyMs (r : Record) : Nat :=
  min (r.latency / 1000000) largestUnsigned

/-- the remaining tokens as a signed number, -1 where they are not known -/
def remainingField (r : Record) : Int :=
  match r.remaining with
  | some n => min n largestSigned
  | none => -1

/-- the fields every event has -/
def commonFields (r : Record) : List (String × FieldValue) :=
  [("request_id", .text r.requestId), ("tenant", .text r.tenantId), ("category", .text r.category),
    ("latency_ms", .number r.latencyMs)]

/-- the events of a record: one, and a second for usage where the tenant's policy asks for it -/
def events (r : Record) : List Event :=
  let diagnostics := "aihub::diagnostics"
  match r.outcome with
  | .success status =>
    let completed : Event :=
      { level := .debug, target := diagnostics, message := "request completed"
        fields := r.commonFields ++ [("remaining", .number r.remainingField), ("status", .number status),
          ("tags", .text (RequestContext.renderTags r.tags))] }
    let usage : Event :=
      { level := .info, target := "aihub::usage", message := "usage"
        fields := r.commonFields ++ [("status", .number status)] }
    if r.usageLogging then [completed, usage] else [completed]
  | .error code =>
    [{ level := if code.isServerFault then .warn else .info
       target := diagnostics
       message := if code.isServerFault then "request failed" else "request rejected"
       fields := r.commonFields ++ [("stage", .text r.stage), ("remaining", .number r.remainingField),
         ("error", .text code.name)] }]

end Record

end TenantGateway
