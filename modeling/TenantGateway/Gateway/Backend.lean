/-
Backends over HTTP: for each configured endpoint one, which relays requests without the headers of a single hop.
-/
import TenantGateway.Gateway.Flight
import TenantGateway.Http.Client

namespace TenantGateway

structure HttpBackend where
  name : String
  /-- what every path is appended to -/
  base : String
  deriving DecidableEq, Repr

namespace HttpBackend

/-- a backend at a URL, slashes at its end left out -/
def make (name url : String) : HttpBackend :=
  ⟨name, String.ofList (url.toList.reverse.dropWhile (· = '/')).reverse⟩

/-- the text of the URL that a request to forward is sent to -/
def urlText (b : HttpBackend) (r : ForwardRequest) : String := b.base ++ r.path

/-- the request that is sent for a request to forward -/
def request (b : HttpBackend) (r : ForwardRequest) : Except ClientError WireRequest :=
  match Url.parse none (b.urlText r) with
  | none => .error .malformed
  | some u =>
    let request := Client.request r.method u
    .ok { request with headers := request.headers.replace r.headers.stripHopByHop, body := r.body }

/-- forward a request and take back the answer -/
def forward {W : Type} (b : HttpBackend) (n : Network W) (w : W) (r : ForwardRequest) :
    Except GatewayError Response × W :=
  let unreachable (e : ClientError) : Except GatewayError Response :=
    .error (.backendUnavailable (b.name ++ ": " ++ e.message))
  match b.request r with
  | .error e => (unreachable e, w)
  | .ok request =>
    match Client.exchange n w request with
    | (.error e, w) => (unreachable e, w)
    | (.ok answer, w) => (.ok { answer with headers := answer.headers.stripHopByHop }, w)

end HttpBackend

/-- the backends of the configured endpoints -/
def BackendsSection.httpBackends (b : BackendsSection) : List (Category × HttpBackend) :=
  b.endpoints.map fun (category, endpoint) => (category, .make category.name endpoint.url)

end TenantGateway
