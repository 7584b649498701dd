/-
Diagnostics: every finished request is logged, counted, and given to further sinks.

A sink may refuse a record. That is counted under the sink's name and has no other effect.
-/
import TenantGateway.Metrics.Page
import TenantGateway.Request.Record

namespace TenantGateway

/-- a receiver of records; whether it takes one may depend on those it was given before -/
structure Sink where
  name : String
  accepts : (before : List Record) → Record → Bool

/-- a sink and the records it was given -/
structure SinkState where
  sink : Sink
  given : List Record

structure Diagnostics where
  metrics : Metrics
  /-- the events logged so far -/
  events : List Event
  sinks : List SinkState

namespace Diagnostics

/-- the sinks that are always there -/
def loggingSink : String := "tracing"
def metricsSink : String := "metrics"

def start (sinks : List Sink) : Diagnostics :=
  ⟨.empty, [], sinks.map fun s => ⟨s, []⟩⟩

end Diagnostics

namespace Metrics

/-- count a record -/
def count (m : Metrics) (r : Record) : Metrics :=
  { m with
    requests := m.requests.increment [("tenant", r.tenantLabel), ("category", r.category), ("outcome", r.outcome.label)]
    remaining := match r.remaining with
      | some n => m.remaining.set [("tenant", r.tenantLabel)] (min n Record.largestSigned : Nat)
      | none => m.remaining
    durations := m.durations.observe [("tenant", r.tenantLabel), ("category", r.category)] r.latency }

/-- count a record that a sink refused -/
def countDropped (m : Metrics) (sink : String) : Metrics :=
  { m with dropped := m.dropped.increment [("sink", sink)] }

end Metrics

namespace Diagnostics

/-- give a record to the sinks in turn -/
def distribute (r : Record) (m : Metrics) : List SinkState → Metrics × List SinkState
  | [] => (m, [])
  | s :: rest =>
    let m := if s.sink.accepts s.given r then m else m.countDropped s.sink.name
    let (m, rest) := distribute r m rest
    (m, { s with given := s.given ++ [r] } :: rest)

/-- a request has ended -/
def record (d : Diagnostics) (r : Record) : Diagnostics :=
  let (m, sinks) := distribute r (d.metrics.count r) d.sinks
  { metrics := m, events := d.events ++ r.events, sinks }

end Diagnostics

end TenantGateway
