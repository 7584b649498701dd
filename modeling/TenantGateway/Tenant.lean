/-
A registered tenant.
-/
import TenantGateway.Config.Schema

namespace TenantGateway

structure Tenant where
  id : String
  displayName : String
  enabled : Bool
  backends : List Category
  tokensPerMinute : Nat
  policy : TenantPolicy
  deriving DecidableEq, Repr

namespace Tenant

/-- the tenant a configuration entry describes; without a display name it goes by its id -/
def ofConfig (c : TenantConfig) : Tenant :=
  { id := c.id
    displayName := c.displayName.getD c.id
    enabled := c.enabled
    backends := c.backends
    tokensPerMinute := c.tokensPerMinute
    policy := c.policy }

def backendEnabled (t : Tenant) (c : Category) : Bool :=
  t.backends.contains c

end Tenant

end TenantGateway
