/-
Failures of the gateway: their stable codes, their HTTP statuses, the text for the logs and the text for callers.

The two texts differ where the cause holds detail of a provider: `GatewayError.message` tells it, `GatewayError.publicMessage`
does not.
-/
namespace TenantGateway

/-- the stable name of a kind of failure -/
inductive ErrorCode where
  | unknownTenant
  | tenantDisabled
  | notFound
  | backendDisabled
  | credentialUnavailable
  | throttled
  | backendTimeout
  | backendUnavailable
  | clientClosed
  | payloadTooLarge
  | badRequest
  | internal
  deriving DecidableEq, Repr

namespace ErrorCode

def all : List ErrorCode :=
  [.unknownTenant, .tenantDisabled, .notFound, .backendDisabled, .credentialUnavailable, .throttled, .backendTimeout,
    .backendUnavailable, .clientClosed, .payloadTooLarge, .badRequest, .internal]

def name : ErrorCode → String
  | .unknownTenant => "unknown_tenant"
  | .tenantDisabled => "tenant_disabled"
  | .notFound => "not_found"
  | .backendDisabled => "backend_disabled"
  | .credentialUnavailable => "credential_unavailable"
  | .throttled => "throttled"
  | .backendTimeout => "backend_timeout"
  | .backendUnavailable => "backend_unavailable"
  | .clientClosed => "client_closed"
  | .payloadTooLarge => "payload_too_large"
  | .badRequest => "bad_request"
  | .internal => "internal"

def ofName? (s : String) : Option ErrorCode :=
  all.find? (·.name = s)

/-- the HTTP status a failure is answered with -/
def status : ErrorCode → Nat
  | .unknownTenant | .notFound => 404
  | .tenantDisabled | .backendDisabled => 403
  | .credentialUnavailable | .backendUnavailable => 502
  | .throttled => 429
  | .backendTimeout => 504
  | .clientClosed => 499
  | .payloadTooLarge => 413
  | .badRequest => 400
  | .internal => 500

/-- whether the caller is invited to send the same request again -/
def isRetryable (c : ErrorCode) : Bool :=
  c = .throttled || c = .backendTimeout

/-- failures on this side of the caller, which the logs report as warnings -/
def isServerFault (c : ErrorCode) : Bool :=
  500 ≤ c.status

end ErrorCode

/-- why a request, a reload or a start failed -/
inductive GatewayError where
  | unknownTenant (id : String)
  | tenantDisabled (id : String)
  | notFound (path : String)
  | backendDisabled (tenant backend : String)
  | credentialUnavailable (detail : String)
  | throttled (remaining retryAfter : Nat)
  | backendTimeout (milliseconds : Nat)
  | backendUnavailable (detail : String)
  | clientClosed
  | payloadTooLarge (limit : Nat)
  | badRequest (text : String)
  | internal (detail : String)
  deriving DecidableEq, Repr

namespace GatewayError

def code : GatewayError → ErrorCode
  | unknownTenant _ => .unknownTenant
  | tenantDisabled _ => .tenantDisabled
  | notFound _ => .notFound
  | backendDisabled _ _ => .backendDisabled
  | credentialUnavailable _ => .credentialUnavailable
  | throttled _ _ => .throttled
  | backendTimeout _ => .backendTimeout
  | backendUnavailable _ => .backendUnavailable
  | clientClosed => .clientClosed
  | payloadTooLarge _ => .payloadTooLarge
  | badRequest _ => .badRequest
  | internal _ => .internal

/-- the text for the logs -/
def message : GatewayError → String
  | unknownTenant id => "unknown tenant: " ++ id
  | tenantDisabled id => "tenant disabled: " ++ id
  | notFound path => "no route for path: " ++ path
  | backendDisabled tenant backend => "backend " ++ backend ++ " not enabled for tenant " ++ tenant
  | credentialUnavailable detail => "credential unavailable: " ++ detail
  | throttled remaining retryAfter =>
    "throttled (remaining=" ++ toString remaining ++ ", retry_after=" ++ toString retryAfter ++ "s)"
  | backendTimeout ms => "backend timed out after " ++ toString ms ++ "ms"
  | backendUnavailable detail => "backend unavailable: " ++ detail
  | clientClosed => "client closed request"
  | payloadTooLarge limit => "payload too large (limit " ++ toString limit ++ " bytes)"
  | badRequest text => "bad request: " ++ text
  | internal detail => "internal: " ++ detail

/-- the text for callers, free of provider detail -/
def publicMessage : GatewayError → String
  | unknownTenant id => "tenant '" ++ id ++ "' is not registered"
  | tenantDisabled id => "tenant '" ++ id ++ "' is disabled"
  | notFound path => "no backend route matches path '" ++ path ++ "'"
  | backendDisabled _ backend => "backend '" ++ backend ++ "' is not enabled for this tenant"
  | credentialUnavailable _ => "backend credential could not be acquired"
  | throttled _ retryAfter => "rate limit exceeded, retry after " ++ toString retryAfter ++ "s"
  | backendTimeout _ => "backend did not respond in time"
  | backendUnavailable _ => "backend is unavailable"
  | clientClosed => "client closed request"
  | payloadTooLarge limit => "request body exceeds " ++ toString limit ++ " bytes"
  | badRequest text => text
  | internal _ => "internal error"

end GatewayError

end TenantGateway
