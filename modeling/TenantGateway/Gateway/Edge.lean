/-
The HTTP edge: which requests the gateway answers itself, and how the others reach it.

Three paths are for operators and may only be read: `/healthz`, `/readyz` and `/metrics`. All other paths belong to tenants. A
tenant's request is read to its end, as far as the limit allows, before anything else is done with it.
-/
import TenantGateway.Extraction
import TenantGateway.Gateway.Handle

namespace TenantGateway

/-- a request as it comes in -/
structure Request where
  method : String
  uri : Uri
  headers : Headers
  body : List Chunk
  deriving DecidableEq, Repr

/-- the pages for operators -/
inductive OperatorPage where
  | health
  | readiness
  | metrics
  deriving DecidableEq, Repr

namespace OperatorPage

def all : List OperatorPage := [.health, .readiness, .metrics]

def path : OperatorPage → String
  | .health => "/healthz"
  | .readiness => "/readyz"
  | .metrics => "/metrics"

/-- the page at exactly this path -/
def ofPath? (path : String) : Option OperatorPage :=
  all.find? (·.path = path)

end OperatorPage

namespace Response

/-- a text of a given type -/
def text (status : Nat) (type body : String) : Response :=
  ⟨status, Headers.empty.insert .contentType (.plain type), [.data (Text.bytes body)]⟩

def plainText (status : Nat) (body : String) : Response :=
  text status "text/plain; charset=utf-8" body

/-- the answer to a method that only reads are allowed instead of -/
def readOnly : Response :=
  ⟨405, Headers.empty.insert .allow (.plain "GET,HEAD"), []⟩

/-- the answer without its body -/
def headOnly (r : Response) : Response :=
  { r with body := [] }

end Response

/-- read a body to its end, if it does not break and is no longer than `limit`; `read` has been read already -/
def readBody (limit : Nat) (read : List UInt8) : List Chunk → Except GatewayError (List UInt8)
  | [] => .ok read
  | .broken :: _ => .error (.badRequest "request body could not be read")
  | .data bytes :: rest =>
    if limit < read.length + bytes.length then .error (.payloadTooLarge limit) else readBody limit (read ++ bytes) rest

/-- the answer to a request, and what is left when it has been sent -/
structure Served (α W : Type) where
  response : Response
  gateway : Gateway α
  world : W
  now : Nat
  forwarded : List (Category × ForwardRequest) := []

namespace Gateway

variable {α W : Type}

/-- a page for operators -/
def page (g : Gateway α) : OperatorPage → Response
  | .health => .plainText 200 "ok"
  | .readiness => if g.isDraining then .plainText 503 "draining" else .plainText 200 "ready"
  | .metrics => .text 200 "text/plain; version=0.0.4; charset=utf-8" (g.diagnostics.metrics.page g.totals)

/-- the method that asks for the headers of an answer alone -/
def headMethod : String := "HEAD"

/-- whether a method only reads -/
def onlyReads (method : String) : Bool :=
  method = "GET" || method = headMethod

/-- the request of a tenant, its body read -/
def inbound (g : Gateway α) (r : Request) : Except ErrorReply Inbound :=
  let gateway := g.settings.config.gateway
  let (tenantId, path) := gateway.tenantSource.extract r.uri r.headers
  match readBody gateway.maxBodyBytes [] r.body with
  | .error e => .error { error := e, tenant := tenantId }
  | .ok body => .ok { tenantId, method := r.method, path, headers := gateway.tenantSource.consume r.headers, body }

/-- answer the request of a tenant; it is cancelled when the gateway shuts down, and only then -/
def proxy [Quantity α] (o : Outside W) (g : Gateway α) (world : W) (now : Nat) (requestId : String) (r : Request) :
    Served α W :=
  match g.inbound r with
  | .error e => { response := e.response, gateway := g, world, now }
  | .ok inbound =>
    let (result, f) := g.handle o world now requestId { gone := g.closing } inbound
    let gateway := if f.cancelled then f.gateway.shutDown else f.gateway
    match result with
    | .error e => { response := e.response, gateway, world := f.world, now := f.now, forwarded := f.forwarded }
    | .ok reply =>
      { response := reply.response
        gateway := if r.method = headMethod then gateway else gateway.relay reply
        world := f.world
        now := f.now
        forwarded := f.forwarded }

/-- answer a request -/
def serve [Quantity α] (o : Outside W) (g : Gateway α) (world : W) (now : Nat) (requestId : String) (r : Request) :
    Served α W :=
  let served :=
    match OperatorPage.ofPath? r.uri.path with
    | some page =>
      { response := if onlyReads r.method then g.page page else .readOnly, gateway := g, world, now }
    | none => proxy o g world now requestId r
  if r.method = headMethod then { served with response := served.response.headOnly } else served

end Gateway

end TenantGateway
