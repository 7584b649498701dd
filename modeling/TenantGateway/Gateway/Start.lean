/-
Starting the gateway from its configuration and the environment.

The token source comes first, then the gateway. `TokenSource.outside` is what such a gateway sees of the world: an
identity endpoint or a fixed token, and backends over HTTP.
-/
import TenantGateway.Auth.ManagedIdentity
import TenantGateway.Auth.Static
import TenantGateway.Gateway.Backend

namespace TenantGateway

inductive TokenSource where
  | identity (identity : ManagedIdentity)
  | fixed (token : String)
  deriving DecidableEq, Repr

namespace TokenSource

def name : TokenSource → String
  | .identity i => i.sourceName
  | .fixed _ => FixedToken.sourceName

/-- the source that a configuration asks for -/
def ofEnvironment (environment : List (String × String)) (c : CredentialsSection) : Except GatewayError TokenSource :=
  match c.mode with
  | .managedIdentity => .ok (.identity ⟨.ofEnvironment environment, c.clientId⟩)
  | .static => (FixedToken.ofVariable environment c.staticTokenEnv).map .fixed

/-- the world over a network; every call is answered at once, and `epoch` is the Unix time at which the clock starts -/
def outside {W : Type} (s : TokenSource) (backends : List (Category × HttpBackend)) (n : Network W) (epoch : Nat) :
    Outside W where
  fetch w audience now :=
    match s with
    | .identity i =>
      let (answer, w) := i.fetch n w audience (epoch + now / 1000000000)
      ({ answer }, w)
    | .fixed token => ({ answer := FixedToken.answer token }, w)
  forward w category request :=
    match backends.lookup category with
    | some b =>
      let (answer, w) := b.forward n w request
      ({ answer }, w)
    | none => ({ answer := .error (.backendUnavailable category.name) }, w)

end TokenSource

/-- start the gateway that a configuration describes -/
def Gateway.start {α : Type} (environment : List (String × String)) (c : Config) (sinks : List Sink) :
    Except GatewayError (Gateway α × TokenSource) := do
  let source ← TokenSource.ofEnvironment environment c.credentials
  let gateway ← Gateway.build c source.name (c.backends.httpBackends.map (·.1)) sinks
  return (gateway, source)

end TenantGateway
