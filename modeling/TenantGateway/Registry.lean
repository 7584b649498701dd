/-
The registry: the tenants of the last accepted list.

A list of tenants is taken over as a whole or not at all, and each one taken over is a new generation.
-/
import TenantGateway.Config.Validate
import TenantGateway.Table
import TenantGateway.Tenant

namespace TenantGateway

/-- the tenants of one generation -/
structure Snapshot where
  tenants : List Tenant
  generation : Nat
  deriving DecidableEq, Repr

namespace Snapshot

def get? (s : Snapshot) (id : String) : Option Tenant :=
  s.tenants.find? (·.id = id)

def contains (s : Snapshot) (id : String) : Bool :=
  (s.get? id).isSome

def size (s : Snapshot) : Nat := s.tenants.length

/-- the tokens per minute of a tenant that is registered and enabled -/
def budget? (s : Snapshot) (id : String) : Option Nat :=
  ((s.get? id).filter (·.enabled)).map (·.tokensPerMinute)

/-- the tenants of a list by their ids -/
def byId (tenants : List TenantConfig) : Table String Tenant :=
  .ofList (tenants.map fun c => (c.id, .ofConfig c))

/-- the generation of a list, if the list is acceptable -/
def make (tenants : List TenantConfig) (cost generation : Nat) : Except GatewayError Snapshot := do
  checkTenants tenants cost
  return ⟨(byId tenants).entries.map (·.2), generation⟩

end Snapshot

structure Registry where
  current : Snapshot
  /-- what a request costs; every enabled tenant has to afford it -/
  requestCost : Nat
  deriving DecidableEq, Repr

namespace Registry

def make (tenants : List TenantConfig) (cost : Nat) : Except GatewayError Registry := do
  return ⟨← Snapshot.make tenants cost 1, cost⟩

def resolve (r : Registry) (id : String) : Except GatewayError Tenant :=
  match r.current.get? id with
  | some t => .ok t
  | none => .error (.unknownTenant id)

/-- take over a list of tenants, under the cost of the beginning -/
def reload (r : Registry) (tenants : List TenantConfig) : Except GatewayError Registry := do
  return { r with current := ← Snapshot.make tenants r.requestCost (r.current.generation + 1) }

end Registry

end TenantGateway
