/-
Handling a request: through the gates, then a record, and a reply or a failure for the caller.

A streamed answer may be counted while it is passed on: `Metrics.relay` adds the bytes of its pieces.
-/
import TenantGateway.Gateway.Gates

namespace TenantGateway

namespace Headers

/-- the type of a body that is a stream of events -/
def eventStream : String := "text/event-stream"

/-- whether a stream of events is announced -/
def isEventStream (h : Headers) : Bool :=
  match (h.first? .contentType).bind HeaderValue.text? with
  | some type => eventStream.toList.isPrefixOf type
  | none => false

end Headers

namespace RequestContext

/-- the tenant under which the bytes of an answer are counted, if they are -/
def countedFor? (c : RequestContext) (answer : Headers) : Option String :=
  if c.tenant.any (·.policy.streamingMetrics) && answer.isEventStream then some c.tenantId else none

/-- the reply made of a backend's answer -/
def reply (c : RequestContext) (answer : Response) : Reply :=
  { requestId := c.requestId
    status := answer.status
    headers := answer.headers
    body := answer.body
    remaining := c.remaining?.getD 0
    countedFor := c.countedFor? answer.headers }

/-- the failure as the caller is told of it -/
def errorReply (c : RequestContext) (e : GatewayError) : ErrorReply :=
  { error := e, tenant := c.tenantId, requestId := some c.requestId, remaining := c.remaining? }

end RequestContext

namespace Flight

variable {α W : Type}

/-- record that the request has ended -/
def record (f : Flight α W) (outcome : Outcome) : Flight α W :=
  let diagnostics := f.gateway.diagnostics.record (.ofContext f.context outcome f.now)
  { f with gateway := { f.gateway with diagnostics } }

/-- the request has got an answer -/
def complete (f : Flight α W) (answer : Response) : Flight α W :=
  let moves := f.moves ++ [(Stage.completed, (f.context.stage.advance .completed).2)]
  { f with context := f.context.advance .completed, moves }.record (.success answer.status)

/-- the request has failed -/
def fail (f : Flight α W) (e : GatewayError) : Flight α W :=
  { f with context := f.context.fail e.code }.record (.error e.code)

end Flight

namespace Gateway

variable {α W : Type}

/-- the flight of a request that is received now -/
def receive (g : Gateway α) (world : W) (now : Nat) (requestId : String) (caller : Caller) (r : Inbound) : Flight α W :=
  { gateway := g
    world
    now
    context := { requestId, tenantId := r.tenantId, method := r.method, path := r.path, headers := r.headers,
                 started := now }
    cancelled := caller.gone }

/-- handle a request -/
def handle [Quantity α] (o : Outside W) (g : Gateway α) (world : W) (now : Nat) (requestId : String) (caller : Caller)
    (r : Inbound) : Except ErrorReply Reply × Flight α W :=
  match ((Gate.pass o caller r.body).run).run (g.receive world now requestId caller r) with
  | (.ok answer, f) => (.ok (f.context.reply answer), f.complete answer)
  | (.error e, f) => (.error (f.context.errorReply e), f.fail e)

end Gateway

/-- count the bytes of the pieces of a body, as far as it goes -/
def Metrics.relay (m : Metrics) (tenant : String) : List Chunk → Metrics
  | .data bytes :: rest =>
    ({ m with streamBytes := m.streamBytes.add [("tenant", tenant)] (UInt64.ofNat bytes.length) }).relay tenant rest
  | .broken :: _ | [] => m

/-- pass the body of a reply on to its end -/
def Gateway.relay {α : Type} (g : Gateway α) (r : Reply) : Gateway α :=
  match r.countedFor with
  | some tenant => g.withMetrics (·.relay tenant r.body)
  | none => g

end TenantGateway
