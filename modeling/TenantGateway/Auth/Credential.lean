/-
Bearer tokens and the headers a backend expects.

Instants and spans are nanoseconds.
-/
import TenantGateway.Error
import TenantGateway.Http.Header
import TenantGateway.Tenant

namespace TenantGateway

/-- a bearer token and the instant at which it stops being valid -/
structure AccessToken where
  secret : String
  expiresAt : Nat
  deriving DecidableEq, Repr

namespace AccessToken

/-- whether the token is valid for more than `skew` from now -/
def isFresh (t : AccessToken) (skew now : Nat) : Bool :=
  now + skew < t.expiresAt

/-- the value of the authorization header, marked as sensitive -/
def bearer (t : AccessToken) : Except GatewayError HeaderValue :=
  match HeaderValue.ofText? ("Bearer " ++ t.secret) with
  | some v => .ok { v with sensitive := true }
  | none => .error (.credentialUnavailable "token is not a valid header value")

end AccessToken

/-- the audience of the tokens for a category -/
def audienceOf (c : Category) : Except GatewayError String :=
  match c.audience? with
  | some audience => .ok audience
  | none => .error (.internal ("no credential for category " ++ c.name))

namespace Headers

/-- drop the caller's key and install the token; a token that is no header value leaves nothing but the key's absence -/
def withToken (h : Headers) (t : AccessToken) : Headers × Except GatewayError Unit :=
  let h := h.remove .apiKey
  match t.bearer with
  | .ok v => (h.insert .authorization v, .ok ())
  | .error e => (h, .error e)

/-- name the tenant -/
def withTenant (h : Headers) (tenant : Tenant) : Headers × Except GatewayError Unit :=
  match HeaderValue.ofText? tenant.id with
  | some v => (h.insert .tenantId v, .ok ())
  | none => (h, .error (.badRequest ("tenant id is not a valid header value: " ++ tenant.id)))

/-- the headers of a request to a backend: the token, no key, and the tenant; on failure, those as far as they got -/
def authorize (h : Headers) (t : AccessToken) (tenant : Tenant) : Headers × Except GatewayError Unit :=
  match h.withToken t with
  | (h, .ok ()) => h.withTenant tenant
  | (h, .error e) => (h, .error e)

end Headers

end TenantGateway
