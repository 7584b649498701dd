/-
The gateway: what it was started with, and what it keeps between requests.

`Gateway.build` starts one from a configuration; `Gateway.reload` takes over the tenants of another configuration, or changes
nothing but the count of refused reloads.
-/
import TenantGateway.Auth.Cache
import TenantGateway.Diagnostics
import TenantGateway.Limiter.Basic
import TenantGateway.Registry

namespace TenantGateway

/-- what is fixed at the start -/
structure Settings where
  config : Config
  routes : RouteTable
  /-- the name of the token source -/
  source : String
  /-- the categories that have a backend -/
  backends : List Category
  deriving DecidableEq, Repr

namespace Settings

/-- how many tokens a request costs -/
def requestCost (s : Settings) : Nat := s.config.gateway.requestCost

/-- how long a backend may take, in nanoseconds -/
def timeout (s : Settings) : Nat := s.config.backends.timeoutMs * 1000000

end Settings

structure Gateway (α : Type) where
  settings : Settings
  registry : Registry
  limiter : Limiter α
  cache : CredentialCache
  diagnostics : Diagnostics
  /-- whether it is shutting down, which cancels every request -/
  closing : Bool

namespace Gateway

variable {α : Type}

/-- start a gateway; the name of its token source, if it has one, and the categories with a backend are given -/
def build (config : Config) (source : Option String) (backends : List Category) (sinks : List Sink) :
    Except GatewayError (Gateway α) := do
  config.validate
  let source ← match source with
    | some name => .ok name
    | none => .error (.internal "token source not configured")
  let registry ← Registry.make config.tenants config.gateway.requestCost
  let routes ← config.routeTable
  return { settings := { config, routes, source, backends }
           registry
           limiter := .empty
           cache := .empty (config.credentials.refreshSkewSecs * 1000000000)
           diagnostics := .start sinks
           closing := false }

/-- change the metrics -/
def withMetrics (g : Gateway α) (f : Metrics → Metrics) : Gateway α :=
  { g with diagnostics := { g.diagnostics with metrics := f g.diagnostics.metrics } }

/-- count a reload by its result -/
def countReload (g : Gateway α) (result : String) : Gateway α :=
  g.withMetrics fun m => { m with reloads := m.reloads.increment [("result", result)] }

/-- take over the tenants of a configuration; its other sections need a restart -/
def reload [Quantity α] (g : Gateway α) (next : Config) : Gateway α × Except GatewayError Unit :=
  match g.registry.reload next.tenants with
  | .ok registry =>
    ({ g with registry, limiter := g.limiter.sync registry.current }.countReload "ok", .ok ())
  | .error e => (g.countReload "error", .error e)

/-- take over the tenants of configurations, one after another -/
def reloadAll [Quantity α] (g : Gateway α) (configs : List Config) : Gateway α :=
  configs.foldl (fun g config => (g.reload config).1) g

def isDraining (g : Gateway α) : Bool := g.diagnostics.metrics.draining

/-- from now on the gateway reports that it is not ready -/
def drain (g : Gateway α) : Gateway α :=
  g.withMetrics fun m => { m with draining := true }

/-- cancel every request, those to come as well -/
def shutDown (g : Gateway α) : Gateway α :=
  { g with closing := true }

/-- the single values at the end of the metrics page -/
def totals (g : Gateway α) : List (String × Nat) :=
  [("aihub_tenants", g.registry.current.size), ("aihub_rate_buckets", g.limiter.size),
    ("aihub_credential_refreshes_total", g.cache.refreshes), ("aihub_credential_failures_total", g.cache.failures)]

end Gateway

end TenantGateway
