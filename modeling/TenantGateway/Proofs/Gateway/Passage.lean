/-
A request's passage through the gateway, told without gates.

`Passage` gathers what bears on one request: the gateway it meets, the world outside, its caller. The definitions on it say
what the request finds (its tenant, its category, a token, the answer of the limiter, the backend's call) and where its
flight stands after each part of the way.
-/
import TenantGateway.Proofs.Gateway.Gates

namespace TenantGateway

/-- what the acquisition of a token came to -/
inductive Acquisition where
  /-- the caller left before the answer -/
  | abandoned
  | failed (detail : String)
  | acquired (token : AccessToken)
  deriving DecidableEq

namespace Acquisition

/-- the token, or the failure that the request ends with -/
def result : Acquisition → Except GatewayError AccessToken
  | abandoned => .error .clientClosed
  | failed detail => .error (.credentialUnavailable detail)
  | acquired token => .ok token

end Acquisition

/-- the tags that a policy puts on a request -/
def TenantPolicy.tags (p : TenantPolicy) : List (String × String) :=
  (if p.piiRedaction.enabled then [("pii_redaction", p.piiRedaction.mode.name)] else []) ++
    if p.intelligentRouting then [("intelligent_routing", "on")] else []

theorem RequestContext.tagPolicy_eq (c : RequestContext) (p : TenantPolicy) :
    c.tagPolicy p = { c with tags := c.tags ++ p.tags } := by
  unfold tagPolicy TenantPolicy.tags tag
  cases p.piiRedaction.enabled <;> cases p.intelligentRouting <;> simp

structure Passage (α W : Type) where
  outside : Outside W
  gateway : Gateway α
  world : W
  now : ℕ
  requestId : String
  caller : Caller
  request : Inbound

namespace Passage

variable {α W : Type} (p : Passage α W)

/-! ## Tenant and route -/

/-- the tenant that the request names, if it is registered -/
def tenant? : Option Tenant := p.gateway.registry.current.get? p.request.tenantId

def category : Category := p.gateway.settings.routes.classify p.request.path

/-- the path without its query -/
def barePath : String := String.ofList (Text.before '?' p.request.path.toList)

/-! ## The token -/

/-- the token in the cache, if it is fresh enough -/
def cached? : Option AccessToken := p.gateway.cache.fresh? Category.serviceAudience p.now

/-- whether the source is asked for a token -/
def asksSource : Bool := !p.caller.gone && p.cached?.isNone

def tokenCall : Call FetchAnswer := (p.outside.fetch p.world Category.serviceAudience p.now).1

/-- the configurations that are loaded while there is no token yet -/
def tokenLoads : List Config :=
  if p.caller.gone then []
  else if p.asksSource then p.tokenCall.reloads
  else p.outside.meanwhile p.world

/-- the instant at which the acquisition is over -/
def tokenInstant : ℕ := if p.asksSource then p.now + p.tokenCall.span else p.now

/-- the world when the acquisition is over -/
def tokenWorld : W :=
  if p.asksSource then (p.outside.fetch p.world Category.serviceAudience p.now).2 else p.world

/-- what the acquisition comes to: a token of the source, or else the cached one if it is still valid -/
def acquisition : Acquisition :=
  if p.caller.gone then .abandoned
  else
    match p.cached? with
    | some token => .acquired token
    | none =>
      if p.tokenCall.isAbandoned then .abandoned
      else
        match p.tokenCall.answer with
        | .ok issued => .acquired ⟨issued.secret, p.tokenInstant + issued.lifetime⟩
        | .error e =>
          match p.gateway.cache.valid? Category.serviceAudience 0 p.tokenInstant with
          | some token => .acquired token
          | none => .failed (CredentialCache.detail e)

/-- the cache when the acquisition is over -/
def tokenCache : CredentialCache :=
  if p.asksSource && !p.tokenCall.isAbandoned then
    (p.gateway.cache.settle Category.serviceAudience p.tokenInstant p.tokenCall.answer).1
  else p.gateway.cache

/-- whether the caller is gone when there is a token -/
def leavesBeforeAdmission : Bool :=
  (p.asksSource && p.tokenCall.isCancelledBy p.tokenCall.span) || p.caller.leavesWithToken

variable [Quantity α]

/-- the gateway when the acquisition is over -/
def supplied : Gateway α :=
  { p.gateway.reloadAll p.tokenLoads with cache := p.tokenCache }

/-! ## Admission -/

/-- the limiter after it was asked for the cost of a request, and its answer -/
def charge (t : Tenant) : Limiter α × Admission :=
  p.supplied.limiter.charge (some p.supplied.registry.current) t p.gateway.settings.requestCost p.tokenInstant

/-- whether the caller is gone when the limiter has answered -/
def leavesBeforeDispatch (t : Tenant) : Bool :=
  p.caller.leavesAtAdmission
    ((p.charge t).1.buckets.contains t.id && !p.supplied.limiter.buckets.contains t.id)

/-- the gateway when the limiter has answered -/
def charged (t : Tenant) : Gateway α :=
  { p.supplied with limiter := (p.charge t).1 }

/-! ## Dispatch -/

/-- the request as it is forwarded -/
def outgoing (t : Tenant) (token : AccessToken) : ForwardRequest :=
  { method := p.request.method
    path := p.request.path
    headers := (p.request.headers.authorize token t).1.insertIf .requestId (HeaderValue.ofText? p.requestId)
    body := p.request.body }

def backendCall (r : ForwardRequest) : Call (Except GatewayError Response) :=
  (p.outside.forward p.tokenWorld p.category r).1

/-- what the call of the backend comes to, and how long it takes -/
def dispatchEnding (r : ForwardRequest) : Ending (Except GatewayError Response) × ℕ :=
  (p.backendCall r).ending (some p.gateway.settings.timeout)

/-- what a forwarded request comes to -/
def outcome (r : ForwardRequest) : Except GatewayError Response :=
  (p.dispatchEnding r).1.response p.gateway.settings.config.backends.timeoutMs

/-! ## The flight on its way -/

def received : Flight α W :=
  p.gateway.receive p.world p.now p.requestId p.caller p.request

/-- the tenant is found -/
def named (t : Tenant) : Flight α W :=
  { p.received with context := { p.received.context with tenant := some t } }

/-- and is enabled -/
def resolved (t : Tenant) : Flight α W :=
  { p.received with context := { p.received.context with tenant := some t, tags := t.policy.tags } }

/-- the path has been looked up -/
def classified (t : Tenant) : Flight α W :=
  { p.resolved t with context := { (p.resolved t).context with category := some p.category } }

/-- and belongs to a category -/
def matched (t : Tenant) : Flight α W :=
  { p.classified t with
    context := { (p.classified t).context with stage := .matched }
    moves := [(.matched, true)] }

/-- the acquisition of a token is over -/
def waited (t : Tenant) : Flight α W :=
  { p.matched t with
    gateway := p.supplied
    world := p.tokenWorld
    now := p.tokenInstant
    cancelled := p.caller.gone || (p.asksSource && p.tokenCall.isCancelledBy p.tokenCall.span) }

/-- the headers are rewritten, as far as that goes -/
def rewritten (t : Tenant) (token : AccessToken) : Flight α W :=
  { p.waited t with
    context := { (p.waited t).context with headers := (p.request.headers.authorize token t).1 } }

/-- the request is authorized -/
def authenticated (t : Tenant) (token : AccessToken) : Flight α W :=
  { p.rewritten t token with
    context := { (p.rewritten t token).context with
                 credential := some ⟨token, Category.serviceAudience⟩, stage := .authenticated }
    moves := [(.matched, true), (.authenticated, true)] }

/-- and the caller may leave -/
def parted (t : Tenant) (token : AccessToken) : Flight α W :=
  { p.authenticated t token with cancelled := p.caller.gone || p.leavesBeforeAdmission }

/-- the limiter has been asked, and the caller may leave -/
def asked (t : Tenant) (token : AccessToken) : Flight α W :=
  { p.parted t token with
    gateway := p.charged t
    cancelled := p.caller.gone || p.leavesBeforeAdmission || p.leavesBeforeDispatch t }

/-- the limiter's answer is known -/
def decided (t : Tenant) (token : AccessToken) : Flight α W :=
  { p.asked t token with
    context := { (p.asked t token).context with admission := some (p.charge t).2 } }

/-- and lets the request pass -/
def admitted (t : Tenant) (token : AccessToken) : Flight α W :=
  { p.decided t token with
    context := { (p.decided t token).context with stage := .rateChecked }
    moves := [(.matched, true), (.authenticated, true), (.rateChecked, true)] }

/-- the backend is chosen, and the caller may leave -/
def chosen (t : Tenant) (token : AccessToken) : Flight α W :=
  { p.admitted t token with
    cancelled := p.caller.gone || p.leavesBeforeAdmission || p.leavesBeforeDispatch t || p.caller.leavesAtDispatch }

/-- the call of the backend is over -/
def forwarded (t : Tenant) (token : AccessToken) : Flight α W :=
  let r := p.outgoing t token
  { p.chosen t token with
    gateway := (p.charged t).reloadAll (p.backendCall r).reloads
    world := (p.outside.forward p.tokenWorld p.category r).2
    now := p.tokenInstant + (p.dispatchEnding r).2
    context := { (p.chosen t token).context with headers := .empty }
    cancelled := (p.admitted t token).cancelled || (p.backendCall r).isCancelledBy (p.dispatchEnding r).2
    forwarded := [(p.category, r)] }

/-- and gave an answer -/
def answered (t : Tenant) (token : AccessToken) : Flight α W :=
  { p.forwarded t token with
    context := { (p.forwarded t token).context with stage := .dispatched }
    moves := [(.matched, true), (.authenticated, true), (.rateChecked, true), (.dispatched, true)] }

/-- the request handled: what the caller is told, and the flight at its end -/
def handled : Except ErrorReply Reply × Flight α W :=
  p.gateway.handle p.outside p.world p.now p.requestId p.caller p.request

end Passage

end TenantGateway
