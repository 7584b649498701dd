/-
The credential cache: for each audience the token fetched last.

A token that is still fresh by the margin `skew` is used again; else the source is asked. If the source fails, the old token
serves until it expires. `getFrom` is a whole call of the cache, over any source.
-/
import TenantGateway.Auth.Credential
import TenantGateway.Table

namespace TenantGateway

/-- a token as a source gives it: its text and how long it is valid -/
structure IssuedToken where
  secret : String
  lifetime : Nat
  deriving DecidableEq, Repr

/-- the token, if its time starts at the instant `now` -/
def IssuedToken.startingAt (t : IssuedToken) (now : Nat) : AccessToken :=
  ⟨t.secret, now + t.lifetime⟩

/-- what a source comes to -/
abbrev FetchAnswer := Except GatewayError IssuedToken

structure CredentialCache where
  slots : Table String AccessToken
  /-- how long before it expires a token is no longer fresh -/
  skew : Nat
  /-- how many fetches succeeded -/
  refreshes : Nat
  /-- how many fetches failed -/
  failures : Nat

namespace CredentialCache

def empty (skew : Nat) : CredentialCache :=
  ⟨.empty, skew, 0, 0⟩

/-- the token of an audience, if it is valid for more than `margin` -/
def valid? (c : CredentialCache) (audience : String) (margin now : Nat) : Option AccessToken :=
  (c.slots.get? audience).filter (·.isFresh margin now)

/-- the token that is used without asking the source -/
def fresh? (c : CredentialCache) (audience : String) (now : Nat) : Option AccessToken :=
  c.valid? audience c.skew now

/-- a failure of the source as the cache reports it -/
def unavailable (e : GatewayError) : GatewayError :=
  match e with
  | .credentialUnavailable detail => .credentialUnavailable detail
  | other => .credentialUnavailable other.message

/-- what it says then -/
def detail : GatewayError → String
  | .credentialUnavailable detail => detail
  | e => e.message

theorem unavailable_eq (e : GatewayError) : unavailable e = .credentialUnavailable (detail e) := by
  cases e <;> rfl

/-- take in what the source came to at the instant `now` -/
def take (c : CredentialCache) (audience : String) (now : Nat) (answer : Except GatewayError AccessToken) :
    CredentialCache × Except GatewayError AccessToken :=
  match answer with
  | .ok token => ({ c with slots := c.slots.insert audience token, refreshes := c.refreshes + 1 }, .ok token)
  | .error e =>
    let c := { c with failures := c.failures + 1 }
    match c.valid? audience 0 now with
    | some token => (c, .ok token)
    | none => (c, .error (unavailable e))

/-- take in an answer whose token starts its time at the instant `now` -/
def settle (c : CredentialCache) (audience : String) (now : Nat) (answer : FetchAnswer) :
    CredentialCache × Except GatewayError AccessToken :=
  c.take audience now (answer.map (·.startingAt now))

/-- a source as a call meets it: asked for an audience at an instant, it comes to a token or a failure, and takes a while for
it; `σ` is whatever it keeps of its calls -/
abbrev Source (σ : Type) := σ → (audience : String) → (now : Nat) → (Except GatewayError AccessToken × Nat) × σ

/-- the token of an audience at the instant `now`, from the cache or from the source; the call waits a while for its turn
before it asks the source -/
def getFrom {σ : Type} (c : CredentialCache) (source : Source σ) (s : σ) (audience : String) (now wait : Nat) :
    (CredentialCache × σ) × Except GatewayError AccessToken :=
  match c.fresh? audience now with
  | some token => ((c, s), .ok token)
  | none =>
    -- whoever had the turn before may have put a token there
    match c.fresh? audience (now + wait) with
    | some token => ((c, s), .ok token)
    | none =>
      let ((answer, delay), s) := source s audience (now + wait)
      let (c, token) := c.take audience (now + wait + delay) answer
      ((c, s), token)

/-- the token of an audience at the instant `now`; if the source is asked, it answers `delay` later -/
def get (c : CredentialCache) (audience : String) (now delay : Nat) (answer : FetchAnswer) :
    CredentialCache × Except GatewayError AccessToken :=
  let source : Source Unit := fun s _ now => ((answer.map (·.startingAt (now + delay)), delay), s)
  let ((c, _), token) := c.getFrom source () audience now 0
  (c, token)

end CredentialCache

end TenantGateway
