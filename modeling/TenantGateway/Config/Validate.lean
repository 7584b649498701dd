/-
Which configurations are accepted.

The sections are checked one after another and the first rule that is broken is the answer. The rules on tenants are shared
with the registry: `checkTenants` goes through the tenants in order.
-/
import TenantGateway.Config.Schema
import TenantGateway.Http.Header
import TenantGateway.Net.SocketAddress
import TenantGateway.Route

namespace TenantGateway

open Text

/-- fail with a text unless a rule holds -/
def demand (rule : Bool) (text : String) : Except GatewayError Unit :=
  if rule then .ok () else .error (.badRequest text)

namespace TenantSource

/-- whether the header that names the tenant can exist -/
def isUsable : TenantSource → Bool
  | .pathPrefix => true
  | .header name => (HeaderName.ofText? name).isSome

/-- the configured name of that header -/
def headerText : TenantSource → String
  | .pathPrefix => ""
  | .header name => name

end TenantSource

namespace GatewaySection

/-- the address to listen on, if the text is one -/
def address? (g : GatewaySection) : Option SocketAddress :=
  SocketAddress.parse g.listen

def validate (g : GatewaySection) : Except GatewayError Unit := do
  demand g.address?.isSome ("gateway.listen must be a valid socket address: " ++ g.listen)
  demand (1 ≤ g.requestCost) "gateway.request_cost must be >= 1"
  demand (g.drainGraceMs ≤ 120000) "gateway.drain_grace_ms must be <= 120000"
  demand (1 ≤ g.maxBodyBytes) "gateway.max_body_bytes must be >= 1"
  demand g.tenantSource.isUsable
    ("gateway.tenant_source.name is not a valid header name: " ++ g.tenantSource.headerText)

end GatewaySection

/-- whether a URL is one of the web -/
def BackendEndpoint.isWeb (e : BackendEndpoint) : Bool :=
  startsWith "http://" e.url || startsWith "https://" e.url

def BackendsSection.validate (b : BackendsSection) : Except GatewayError Unit := do
  demand (100 ≤ b.timeoutMs && b.timeoutMs ≤ 600000) "backends.timeout_ms must be between 100 and 600000"
  b.endpoints.forM fun (c, e) => demand e.isWeb ("backends." ++ c.name ++ ".url must start with http:// or https://")

def CredentialsSection.validate (c : CredentialsSection) : Except GatewayError Unit := do
  demand (c.refreshSkewSecs ≤ 3600) "credentials.refresh_skew_secs must be <= 3600"
  demand (c.mode ≠ .static || !isBlankText c.staticTokenEnv)
    "credentials.static_token_env must name an environment variable"

/-- what is wrong with a tenant by itself, under the cost of a request: its bucket has to hold one request -/
def TenantConfig.fault? (t : TenantConfig) (cost : Nat) : Option String :=
  if t.tokensPerMinute = 0 then some ("tenant " ++ t.id ++ ": rate_limit.tokens_per_minute must be >= 1")
  else if t.enabled && t.tokensPerMinute < cost then
    some ("tenant " ++ t.id ++ ": rate_limit.tokens_per_minute (" ++ toString t.tokensPerMinute
      ++ ") is below gateway.request_cost (" ++ toString cost ++ ")")
  else if t.backends.contains .unmatched then some ("tenant " ++ t.id ++ ": 'unmatched' is not a backend")
  else none

/-- the first fault of a list of tenants; `seen` are the names of those before -/
def tenantsFault? (cost : Nat) : (seen : List String) → List TenantConfig → Option String
  | _, [] => none
  | seen, t :: rest =>
    if isBlankText t.id then some "tenant id must not be empty"
    else if seen.contains t.id then some ("duplicate tenant id: " ++ t.id)
    else (t.fault? cost).or (tenantsFault? cost (t.id :: seen) rest)

def checkTenants (tenants : List TenantConfig) (cost : Nat) : Except GatewayError Unit :=
  match tenantsFault? cost [] tenants with
  | none => .ok ()
  | some text => .error (.badRequest text)

namespace Config

/-- the configured routes, or the standard ones when none are configured -/
def routeTable (c : Config) : Except GatewayError RouteTable :=
  match c.routes with
  | none => .ok .standard
  | some routes => do RouteTable.make (← routes.mapM fun r => RouteRule.make r.pattern r.backend)

def validate (c : Config) : Except GatewayError Unit := do
  demand (c.version = 1) ("unsupported config version " ++ toString c.version)
  demand (!c.tenants.isEmpty) "tenants must not be empty"
  c.gateway.validate
  c.backends.validate
  c.credentials.validate
  let _ ← c.routeTable
  checkTenants c.tenants c.gateway.requestCost

end Config

end TenantGateway
