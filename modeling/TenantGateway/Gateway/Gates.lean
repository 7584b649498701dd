/-
The gates of a request, in their order.

`resolveTenant`, `matchRoute`, `authenticate`, `takeTokens` and `dispatch` each check what can fail there, first failure
first; `pass` is all of them.
-/
import TenantGateway.Gateway.Flight

namespace TenantGateway

namespace RequestContext

/-- note which features of the tenant's policy bear on the request -/
def tagPolicy (c : RequestContext) (p : TenantPolicy) : RequestContext :=
  let c := if p.piiRedaction.enabled then c.tag "pii_redaction" p.piiRedaction.mode.name else c
  if p.intelligentRouting then c.tag "intelligent_routing" "on" else c

/-- the path without its query -/
def barePath (c : RequestContext) : String :=
  String.ofList (Text.before '?' c.path.toList)

end RequestContext

/-- the failure of a request whose tenant has been taken off or disabled on the way -/
def Registry.revocation (r : Registry) (id : String) : GatewayError :=
  match r.resolve id with
  | .ok _ => .tenantDisabled id
  | .error e => e

/-- the answer of a backend, or the failure that the request has in its place -/
def Ending.response (timeoutMs : Nat) : Ending (Except GatewayError Response) → Except GatewayError Response
  | .answered answer => answer
  | .cancelled => .error .clientClosed
  | .timedOut => .error (.backendTimeout timeoutMs)

namespace Gate

variable {α W : Type}

/-- the tenant is registered and enabled -/
def resolveTenant : Gate α W Tenant := do
  let flight ← get
  let tenant ← ofExcept (flight.gateway.registry.resolve flight.context.tenantId)
  note fun c => { c with tenant := some tenant }
  if !tenant.enabled then throw (.tenantDisabled tenant.id)
  note (·.tagPolicy tenant.policy)
  return tenant

/-- the path belongs to a category, and the tenant may use its backend -/
def matchRoute (tenant : Tenant) : Gate α W Category := do
  let flight ← get
  let category := flight.gateway.settings.routes.classify flight.context.path
  note fun c => { c with category := some category }
  if !category.isMatched then throw (.notFound flight.context.barePath)
  advance .matched
  if !tenant.backendEnabled category then throw (.backendDisabled tenant.id category.name)
  return category

variable [Quantity α]

/-- ask the source for a token and put what it came to into the cache -/
def fetchToken (o : Outside W) (audience : String) : Gate α W AccessToken := do
  let flight ← get
  let (call, world) := o.fetch flight.world audience flight.now
  let (ending, elapsed) := call.ending none
  let gateway := flight.gateway.reloadAll call.reloads
  let now := flight.now + elapsed
  let flight := { flight with gateway, world, now, cancelled := flight.cancelled || call.isCancelledBy elapsed }
  match ending with
  | .answered answer =>
    let (cache, token) := gateway.cache.settle audience now answer
    set { flight with gateway := { gateway with cache } }
    ofExcept token
  | _ =>
    set flight
    throw .clientClosed

/-- a token for an audience, from the cache if it has a fresh one -/
def token (o : Outside W) (audience : String) : Gate α W AccessToken := do
  let flight ← get
  match flight.gateway.cache.fresh? audience flight.now with
  | some token =>
    set { flight with gateway := flight.gateway.reloadAll (o.meanwhile flight.world) }
    return token
  | none => fetchToken o audience

/-- there is a token for the backend, and it and the tenant's id can be sent -/
def authenticate (o : Outside W) (tenant : Tenant) (category : Category) : Gate α W Unit := do
  unlessCancelled
  let audience ← ofExcept (audienceOf category)
  let token ← token o audience
  let (headers, result) := (← get).context.headers.authorize token tenant
  note fun c => { c with headers }
  ofExcept result
  note fun c => { c with credential := some ⟨token, audience⟩ }
  advance .authenticated

/-- the tenant can pay for the request -/
def takeTokens (caller : Caller) (tenant : Tenant) : Gate α W Unit := do
  depart caller.leavesWithToken
  unlessCancelled
  let flight ← get
  let gateway := flight.gateway
  let (limiter, admission) :=
    gateway.limiter.charge (some gateway.registry.current) tenant gateway.settings.requestCost flight.now
  let newBucket := limiter.buckets.contains tenant.id && !gateway.limiter.buckets.contains tenant.id
  set { flight with
        gateway := { gateway with limiter }
        cancelled := flight.cancelled || caller.leavesAtAdmission newBucket }
  if admission = .revoked then throw (gateway.registry.revocation tenant.id)
  note fun c => { c with admission := some admission }
  match admission with
  | .throttled remaining retryAfter => throw (.throttled remaining retryAfter)
  | _ => advance .rateChecked

/-- there is a backend, and it answers in time -/
def dispatch (o : Outside W) (caller : Caller) (category : Category) (body : List UInt8) : Gate α W Response := do
  unlessCancelled
  let flight ← get
  let settings := flight.gateway.settings
  if !settings.backends.contains category then
    throw (.backendUnavailable ("no backend configured for " ++ category.name))
  depart caller.leavesAtDispatch
  unlessCancelled
  let context := flight.context
  let request : ForwardRequest :=
    { method := context.method
      path := context.path
      headers := context.headers.insertIf .requestId (HeaderValue.ofText? context.requestId)
      body }
  let (call, world) := o.forward flight.world category request
  let (ending, elapsed) := call.ending (some settings.timeout)
  set { flight with
        gateway := flight.gateway.reloadAll call.reloads
        world
        now := flight.now + elapsed
        context := { context with headers := .empty }
        cancelled := flight.cancelled || call.isCancelledBy elapsed
        forwarded := flight.forwarded ++ [(category, request)] }
  let response ← ofExcept (ending.response settings.config.backends.timeoutMs)
  advance .dispatched
  return response

/-- all the gates -/
def pass (o : Outside W) (caller : Caller) (body : List UInt8) : Gate α W Response := do
  let tenant ← resolveTenant
  let category ← matchRoute tenant
  authenticate o tenant category
  takeTokens caller tenant
  dispatch o caller category body

end Gate

end TenantGateway
