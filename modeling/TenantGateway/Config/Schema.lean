/-
The configuration: its sections and their defaults.
-/
import TenantGateway.Category

namespace TenantGateway

/-- where the tenant of a request is named: in the first segment of its path, or in a header -/
inductive TenantSource where
  | pathPrefix
  | header (name : String)
  deriving DecidableEq, Repr

/-- the header that names the tenant unless another is configured -/
def TenantSource.defaultHeader : String := "x-tenant-id"

structure GatewaySection where
  listen : String := "0.0.0.0:8080"
  tenantSource : TenantSource := .pathPrefix
  /-- tokens charged for a request -/
  requestCost : Nat := 1
  drainGraceMs : Nat := 5000
  /-- the largest body that is read -/
  maxBodyBytes : Nat := 50 * 1024 * 1024
  deriving DecidableEq, Repr

structure BackendEndpoint where
  url : String
  deriving DecidableEq, Repr

structure BackendsSection where
  timeoutMs : Nat := 30000
  openai : Option BackendEndpoint := none
  documentIntelligence : Option BackendEndpoint := none
  deriving DecidableEq, Repr

namespace BackendsSection

def endpoint? (b : BackendsSection) : Category → Option BackendEndpoint
  | .openai => b.openai
  | .documentIntelligence => b.documentIntelligence
  | .unmatched => none

/-- the endpoints that are configured -/
def endpoints (b : BackendsSection) : List (Category × BackendEndpoint) :=
  [Category.openai, .documentIntelligence].filterMap fun c => (b.endpoint? c).map fun e => (c, e)

end BackendsSection

inductive CredentialMode where
  | managedIdentity
  | static
  deriving DecidableEq, Repr

structure CredentialsSection where
  mode : CredentialMode := .managedIdentity
  clientId : Option String := none
  /-- the variable that holds the token in static mode -/
  staticTokenEnv : String := "AIHUB_STATIC_TOKEN"
  refreshSkewSecs : Nat := 300
  deriving DecidableEq, Repr

structure RouteConfig where
  pattern : String
  backend : Category
  deriving DecidableEq, Repr

inductive PiiFailMode where
  | failOpen
  | failClosed
  deriving DecidableEq, Repr

def PiiFailMode.name : PiiFailMode → String
  | .failOpen => "fail_open"
  | .failClosed => "fail_closed"

structure PiiRedaction where
  enabled : Bool := false
  mode : PiiFailMode := .failClosed
  deriving DecidableEq, Repr

/-- what is observed of a tenant's requests -/
structure TenantPolicy where
  piiRedaction : PiiRedaction := {}
  usageLogging : Bool := false
  streamingMetrics : Bool := false
  intelligentRouting : Bool := false
  deriving DecidableEq, Repr

structure TenantConfig where
  id : String
  displayName : Option String := none
  enabled : Bool := true
  backends : List Category := [.documentIntelligence, .openai]
  tokensPerMinute : Nat := 1000
  policy : TenantPolicy := {}
  deriving DecidableEq, Repr

structure Config where
  version : Nat
  gateway : GatewaySection := {}
  backends : BackendsSection := {}
  credentials : CredentialsSection := {}
  routes : Option (List RouteConfig) := none
  tenants : List TenantConfig := []
  deriving DecidableEq, Repr

end TenantGateway
