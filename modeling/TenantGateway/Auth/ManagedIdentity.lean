/-
Managed identity: tokens from the endpoint that the hosting platform offers.

The platform names its endpoint and a secret header for it in the environment; where it does not, the endpoint of the machine
is asked.
-/
import TenantGateway.Auth.Lifetime
import TenantGateway.Http.Client
import TenantGateway.Http.Status

namespace TenantGateway

open Text

inductive IdentityEndpoint where
  /-- the endpoint of an application platform, which wants to see a secret -/
  | appService (url secret : String)
  /-- the endpoint of a machine -/
  | machine (url : String)
  deriving DecidableEq, Repr

structure ManagedIdentity where
  endpoint : IdentityEndpoint
  /-- the identity to ask for, if it is not the only one -/
  clientId : Option String
  deriving DecidableEq, Repr

namespace IdentityEndpoint

/-- the endpoint that every machine has -/
def machineUrl : String := "http://169.254.169.254/metadata/identity/oauth2/token"

/-- the endpoint that the environment names, or that of the machine -/
def ofEnvironment (environment : List (String × String)) : IdentityEndpoint :=
  match environment.lookup "IDENTITY_ENDPOINT", environment.lookup "IDENTITY_HEADER" with
  | some url, some secret => .appService url secret
  | _, _ => .machine machineUrl

def url : IdentityEndpoint → String
  | .appService url _ => url
  | .machine url => url

/-- the header that the endpoint wants to see -/
def header : IdentityEndpoint → HeaderName × String
  | .appService _ secret => (.identityHeader, secret)
  | .machine _ => (.metadata, "true")

def apiVersion : IdentityEndpoint → String
  | .appService _ _ => "2019-08-01"
  | .machine _ => "2018-02-01"

end IdentityEndpoint

namespace ManagedIdentity

/-- the name of the source -/
def sourceName (i : ManagedIdentity) : String :=
  match i.endpoint with
  | .appService _ _ => "managed_identity_app_service"
  | .machine _ => "managed_identity_imds"

/-- the names and values that ask for a token -/
def query (i : ManagedIdentity) (audience : String) : List (String × String) :=
  [("api-version", i.endpoint.apiVersion), ("resource", audience)]
    ++ (i.clientId.map fun id => ("client_id", id)).toList

/-- the request for a token -/
def request (i : ManagedIdentity) (audience : String) : Except ClientError WireRequest :=
  match Url.parse none i.endpoint.url with
  | none => .error .malformed
  | some u =>
    if !u.hasHost then .error (.unusable u)
    else
      let request := Client.request "GET" u
      let (name, value) := i.endpoint.header
      match HeaderValue.ofText? value with
      | none => .error .malformed
      | some value =>
        .ok { request with
              headers := request.headers.append name value
              url := request.url.addQuery (i.query audience) }

/-- a text whose bytes are these, if there is one -/
def textOf? (body : List Chunk) : Option (List Char) :=
  (bodyBytes? body).bind fun bytes => (String.fromUTF8? (ByteArray.mk bytes.toArray)).map String.toList

/-- the token in an answer that arrives at the Unix time `now` -/
def read (answer : Response) (now : Nat) : FetchAnswer :=
  if Status.isSuccess answer.status then
    match (textOf? answer.body).bind TokenAnswer.ofText? with
    | some a => a.issue now
    | none => .error (.credentialUnavailable ("token response: " ++ ClientError.undecodable.message))
  else .error (.credentialUnavailable ("identity endpoint returned " ++ Status.render answer.status))

/-- ask the endpoint for a token at the Unix time `now` -/
def fetch {W : Type} (i : ManagedIdentity) (n : Network W) (w : W) (audience : String) (now : Nat) : FetchAnswer × W :=
  let unreachable (e : ClientError) : FetchAnswer := .error (.credentialUnavailable ("identity endpoint: " ++ e.message))
  match i.request audience with
  | .error e => (unreachable e, w)
  | .ok request =>
    match Client.exchange n w request with
    | (.error e, w) => (unreachable e, w)
    | (.ok answer, w) => (read answer now, w)

end ManagedIdentity

end TenantGateway
