/-
A request on its way through the gateway.

`Flight` holds everything that one request can touch: the gateway, the outside world, the clock, and what is known of the
request. A `Gate` is a step of a flight; it lets the request pass or ends it with a failure, and what it did to the flight
stays done either way.
-/
import TenantGateway.Gateway.Basic
import TenantGateway.Gateway.Call
import TenantGateway.Reply

namespace TenantGateway

/-- a request after its tenant was read off -/
structure Inbound where
  tenantId : String
  method : String
  /-- the path to forward, with its query -/
  path : String
  headers : Headers
  body : List UInt8
  deriving DecidableEq, Repr

/-- a request as a backend gets it -/
structure ForwardRequest where
  method : String
  path : String
  headers : Headers
  body : List UInt8
  deriving DecidableEq, Repr

/-- the token source and the backends; `W` is whatever they keep of the calls they got -/
structure Outside (W : Type) where
  fetch : W → (audience : String) → (now : Nat) → Call FetchAnswer × W
  forward : W → Category → ForwardRequest → Call (Except GatewayError Response) × W
  /-- the configurations that are loaded while a token is taken from the cache -/
  meanwhile : W → List Config := fun _ => []

/-- when the caller of a request leaves, the calls to the outside left aside -/
structure Caller where
  /-- whether it has left before a token is needed -/
  gone : Bool := false
  /-- whether it leaves when there is a token, before the limiter is asked -/
  leavesWithToken : Bool := false
  /-- whether it leaves while the limiter is asked, which may make a new bucket -/
  leavesAtAdmission : (newBucket : Bool) → Bool := fun _ => false
  /-- whether it leaves when the backend is chosen, before it is asked -/
  leavesAtDispatch : Bool := false

structure Flight (α W : Type) where
  gateway : Gateway α
  world : W
  /-- nanoseconds from the start of the clock -/
  now : Nat
  context : RequestContext
  /-- whether the caller has left -/
  cancelled : Bool
  /-- what was forwarded, and to which backend -/
  forwarded : List (Category × ForwardRequest) := []
  /-- the stages the request was told to go to, and whether it went -/
  moves : List (Stage × Bool) := []

/-- a step of a flight that may end it -/
abbrev Gate (α W β : Type) := ExceptT GatewayError (StateM (Flight α W)) β

namespace Gate

variable {α W β : Type}

/-- pass with a value or end with a failure -/
def ofExcept (r : Except GatewayError β) : Gate α W β :=
  match r with
  | .ok b => pure b
  | .error e => throw e

/-- change what is known of the request -/
def note (f : RequestContext → RequestContext) : Gate α W Unit :=
  modify fun flight => { flight with context := f flight.context }

/-- go to the next stage -/
def advance (s : Stage) : Gate α W Unit :=
  modify fun flight =>
    { flight with
      context := flight.context.advance s
      moves := flight.moves ++ [(s, (flight.context.stage.advance s).2)] }

/-- the caller leaves now, if it does -/
def depart (leaves : Bool) : Gate α W Unit :=
  modify fun flight => { flight with cancelled := flight.cancelled || leaves }

/-- end the flight if the caller has left -/
def unlessCancelled : Gate α W Unit := do
  if (← get).cancelled then throw .clientClosed

end Gate

end TenantGateway
