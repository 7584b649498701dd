/-
What is known of a request while it is handled.
-/
import TenantGateway.Auth.Credential
import TenantGateway.Limiter.Bucket
import TenantGateway.Request.Stage
import TenantGateway.Text.Quoted
import TenantGateway.Text.Search

namespace TenantGateway

/-- the token resolved for a request, and for whom it is meant -/
structure Credential where
  token : AccessToken
  audience : String
  deriving DecidableEq, Repr

structure RequestContext where
  requestId : String
  /-- the tenant id as the caller sent it -/
  tenantId : String
  /-- the registered tenant, once it is resolved -/
  tenant : Option Tenant := none
  method : String
  /-- the path to forward, with its query -/
  path : String
  headers : Headers
  stage : Stage := .received
  category : Option Category := none
  credential : Option Credential := none
  admission : Option Admission := none
  tags : List (String × String) := []
  /-- the instant it was received -/
  started : Nat
  deriving DecidableEq, Repr

namespace RequestContext

/-- go to the stage that follows -/
def advance (c : RequestContext) (s : Stage) : RequestContext :=
  { c with stage := (c.stage.advance s).1 }

def fail (c : RequestContext) (code : ErrorCode) : RequestContext :=
  { c with stage := c.stage.fail code }

def tag (c : RequestContext) (key value : String) : RequestContext :=
  { c with tags := c.tags ++ [(key, value)] }

/-- the tokens left by the limiter's answer, if it was asked -/
def remaining? (c : RequestContext) : Option Nat :=
  c.admission.map Admission.remaining

/-- tags in brackets, each a pair of quoted texts -/
def renderTags (tags : List (String × String)) : String :=
  "[" ++ ", ".intercalate (tags.map fun (k, v) => "(" ++ Text.quoted k ++ ", " ++ Text.quoted v ++ ")") ++ "]"

/-- a name in camel case from words in snake case -/
def capitalised (name : String) : String :=
  String.ofList ((Text.splitOn '_' name.toList).flatMap fun word =>
    match word with
    | c :: rest => c.toUpper :: rest
    | [] => [])

def inBraces (name : String) (fields : List String) : String :=
  name ++ " \x7b " ++ ", ".intercalate fields ++ " \x7d"

def renderOption (text : Option String) : String :=
  match text with
  | some t => "Some(" ++ t ++ ")"
  | none => "None"

def renderCategory : Category → String
  | .documentIntelligence => "DocumentIntelligence"
  | .openai => "OpenAI"
  | .unmatched => "Unmatched"

def renderStage (s : Stage) : String :=
  match s with
  | .errored code => "Errored(" ++ capitalised code.name ++ ")"
  | s => capitalised s.name

def renderAdmission : Admission → String
  | .admitted remaining => inBraces "Admitted" ["remaining: " ++ toString remaining]
  | .throttled remaining retryAfter =>
    inBraces "Throttled" ["remaining: " ++ toString remaining, "retry_after_secs: " ++ toString retryAfter]
  | .revoked => "Revoked"

/-- the token's text is left out -/
def renderCredential (c : Credential) : String :=
  inBraces "Credential" ["token: [REDACTED]", "audience: " ++ Text.quoted c.audience]

/-- the context for logs; neither headers nor tokens are shown -/
def render (c : RequestContext) : String :=
  inBraces "RequestContext"
    ["request_id: " ++ Text.quoted c.requestId, "tenant_id: " ++ Text.quoted c.tenantId, "method: " ++ c.method,
      "path: " ++ Text.quoted c.path, "stage: " ++ renderStage c.stage,
      "category: " ++ renderOption (c.category.map renderCategory),
      "credential: " ++ renderOption (c.credential.map renderCredential),
      "admission: " ++ renderOption (c.admission.map renderAdmission), "tags: " ++ renderTags c.tags, ".."]

end RequestContext

end TenantGateway
