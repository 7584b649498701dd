/-
Which sections differ between two configurations.

A reload takes over the tenants only, so a difference anywhere else needs a restart.
-/
import TenantGateway.Config.Schema

namespace TenantGateway

/-- the sections that a reload does not take over -/
inductive FixedSection where
  | version
  | gateway
  | backends
  | credentials
  | routes
  deriving DecidableEq, Repr

namespace FixedSection

def all : List FixedSection := [.version, .gateway, .backends, .credentials, .routes]

def name : FixedSection → String
  | .version => "version"
  | .gateway => "gateway"
  | .backends => "backends"
  | .credentials => "credentials"
  | .routes => "routes"

/-- whether the section differs -/
def differs (s : FixedSection) (a b : Config) : Bool :=
  match s with
  | .version => a.version ≠ b.version
  | .gateway => a.gateway ≠ b.gateway
  | .backends => a.backends ≠ b.backends
  | .credentials => a.credentials ≠ b.credentials
  | .routes => a.routes ≠ b.routes

end FixedSection

/-- the sections that differ and need a restart -/
def Config.fixedChanges (a b : Config) : List FixedSection :=
  FixedSection.all.filter (·.differs a b)

end TenantGateway
