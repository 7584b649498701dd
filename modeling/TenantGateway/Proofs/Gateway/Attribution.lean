/-
Which tenant a request is counted for.

A request that resolves is counted under the id of its tenant, and one that does not under the label `unknown`. A tenant may
have just that id. `tenant_counts` says what the series of an id add up to, whatever the id: the requests of its tenant, and
under `unknown` those of nobody as well. In `unknown_counts_others` a tenant is registered under the label, and a request that
resolved to no tenant is counted for it.
-/
import TenantGateway.Proofs.Gateway.Conserved

namespace TenantGateway

namespace Passage

variable {α W : Type}

/-- whether the request is one of the tenant with this id -/
def resolvesTo (id : String) (p : Passage α W) : Bool := p.tenant?.any (·.id = id)

/-- whether the request names no tenant of the registry -/
def unresolved (p : Passage α W) : Bool := p.tenant?.isNone

/-- the requests under a label: those of the tenant with this id, and if the label is that of no tenant, those of none -/
theorem countP_label (ps : List (Passage α W)) (id : String) :
    ps.countP (fun p => decide (p.label = id)) =
      ps.countP (resolvesTo id) + if id = Record.unresolvedTenant then ps.countP unresolved else 0 := by
  induction ps with
  | nil => simp
  | cons p ps ih =>
    simp only [List.countP_cons, ih]
    cases found : p.tenant? with
    | none =>
      by_cases shared : id = Record.unresolvedTenant
      · simp [label, resolvesTo, unresolved, found, shared]
        omega
      · simp [label, resolvesTo, found, shared, Ne.symm shared]
    | some t =>
      simp only [label, resolvesTo, unresolved, found, Option.map_some, Option.getD_some, Option.any_some,
        Option.isNone_some, Bool.false_eq_true, if_false, add_zero]
      omega

end Passage

/-! ## The series of a tenant -/

namespace Metrics

/-- the labels name this tenant -/
def ofTenant (id : String) (l : Labels) : Bool := l.contains ("tenant", id)

theorem ofTenant_requestLabels (r : Record) (id : String) :
    ofTenant id r.requestLabels.key = decide (r.tenantLabel = id) := by
  simp [ofTenant, Labels.mem_key, Record.requestLabels, eq_comm]

theorem ofTenant_durationLabels (r : Record) (id : String) :
    ofTenant id r.durationLabels.key = decide (r.tenantLabel = id) := by
  simp [ofTenant, Labels.mem_key, Record.durationLabels, eq_comm]

/-- the requests and the latencies under a tenant's label are the same, series by series -/
def SameFor (id : String) (m m' : Metrics) : Prop :=
  ∀ l, ofTenant id l = true →
    m'.requests.table.get? l = m.requests.table.get? l ∧ m'.durations.table.get? l = m.durations.table.get? l

/-- a record moves no series but those of its own label -/
theorem sameFor_count (m : Metrics) (r : Record) {id : String} (other : r.tenantLabel ≠ id) : SameFor id m (m.count r) := by
  intro l own
  have request : l ≠ r.requestLabels.key := by
    rintro rfl
    simp [ofTenant_requestLabels, other] at own
  have duration : l ≠ r.durationLabels.key := by
    rintro rfl
    simp [ofTenant_durationLabels, other] at own
  constructor
  · exact (Table.get?_insert ..).trans (if_neg request)
  · exact (Table.get?_insert ..).trans (if_neg duration)

end Metrics

namespace Service

open Metrics

variable {α W : Type} [Quantity α]

/-- what the series of an id add up to in the metrics of a list of requests -/
theorem tells_tenant {handled : List (Passage α W)} {m : Metrics} {bytes : Counters}
    (same : SameTraffic { ofRecords (handled.map Passage.record) with streamBytes := bytes } m) (id : String) :
    let number := handled.countP (Passage.resolvesTo id) +
      if id = Record.unresolvedTenant then handled.countP Passage.unresolved else 0
    Tells (m.requests.total (ofTenant id)) number handled.length ∧
      Tells (m.durations.total (ofTenant id)) number handled.length := by
  intro number
  have requests := tells_requests (handled.map Passage.record) (ofTenant id)
  have durations := tells_durations (handled.map Passage.record) (ofTenant id)
  simp only [ofTenant_requestLabels, ofTenant_durationLabels, List.countP_map, List.length_map, Function.comp_def,
    Passage.record_tenantLabel, Passage.countP_label] at requests durations
  rw [same.requests, same.durations]
  exact ⟨requests, durations⟩

/-- **A tenant's series count its requests.** Take a gateway that was built from a configuration, any world outside, and any
run of requests and reloads. The requests and the latencies under the id of a tenant add up to the requests that resolved to
it, and no request that did not resolve moves one of these series, unless the id is `unknown`, the label of all that did not:
their number is then in the sums. -/
theorem tenant_counts {config : Config} {source : Option String} {backends : List Category} {sinks : List Sink}
    {start : Gateway α} (built : Gateway.build config source backends sinks = .ok start) (o : Outside W) (world : W)
    (ts : List Turn) (id : String) :
    let s : Service α W := ⟨start, world⟩
    let handled := s.passages o ts
    let m := (s.run o ts).gateway.diagnostics.metrics
    let number := handled.countP (Passage.resolvesTo id) + if id = "unknown" then handled.countP Passage.unresolved else 0
    Tells (m.requests.total (ofTenant id)) number handled.length ∧
      Tells (m.durations.total (ofTenant id)) number handled.length ∧
      (id ≠ "unknown" → ∀ p ∈ handled, p.unresolved = true →
        SameFor id p.gateway.diagnostics.metrics p.handled.2.gateway.diagnostics.metrics) := by
  intro s handled m number
  obtain ⟨bytes, same, -⟩ := run_sameTraffic built o world ts
  obtain ⟨requests, durations⟩ := tells_tenant same id
  refine ⟨requests, durations, fun apart p _ none => ?_⟩
  have label : p.record.tenantLabel ≠ id := by
    have unknown : p.label = Record.unresolvedTenant := by
      simp [Passage.label, Option.isNone_iff_eq_none.1 none]
    rw [p.record_tenantLabel, unknown]
    exact Ne.symm apart
  have counted := p.handled_traffic
  intro l own
  rw [counted.requests, counted.durations]
  exact sameFor_count _ _ label l own

/-- **A tenant beside callers that nobody knows.** One request is the tenant's, two name nobody: its series count the one. -/
theorem tenant_counts_made_up :
    Gateway.build Gateway.tenRequests (some "static") [.openai] [] = .ok Gateway.tenRequestsGateway ∧
      let m := ((Service.mk Gateway.tenRequestsGateway ()).run Gateway.obliging madeUpIds).gateway.diagnostics.metrics
      m.requests.total (ofTenant "acme") = 1 ∧ m.durations.total (ofTenant "acme") = 1 := by
  have built : Gateway.build Gateway.tenRequests (some "static") [.openai] [] = .ok Gateway.tenRequestsGateway := by
    rfl
  obtain ⟨requests, durations, -⟩ := tenant_counts built Gateway.obliging () madeUpIds "acme"
  exact ⟨built, requests.exactly (by decide +kernel), durations.exactly (by decide +kernel)⟩

/-- a configuration whose tenant has the id that is the label of requests without one -/
def unknownTenant : Config := { version := 1, tenants := [{ id := "unknown" }] }

/-- the gateway that is built from it -/
def unknownTenantGateway : Gateway ℚ :=
  { settings := { config := unknownTenant, routes := .standard, source := "static", backends := [] }
    registry := ⟨⟨[.ofConfig { id := "unknown" }], 1⟩, 1⟩
    limiter := .empty
    cache := .empty 300000000000
    diagnostics := .start []
    closing := false }

/-- **A tenant that is counted for others.** The configuration is accepted. One request is handled, and it resolves to no
tenant. Yet the series of the registered tenant hold it. -/
theorem unknown_counts_others :
    unknownTenant.validate = .ok () ∧
      Gateway.build unknownTenant (some "static") [] [] = .ok unknownTenantGateway ∧
      let s : Service ℚ Unit := ⟨unknownTenantGateway, ()⟩
      let ghost : List Turn := [.inbound 0 "1" {} ⟨"ghost", "GET", "/openai/chat", .empty, []⟩]
      let m := (s.run Gateway.obliging ghost).gateway.diagnostics.metrics
      (s.run Gateway.obliging ghost).gateway.registry.current.contains "unknown" = true ∧
        (s.passages Gateway.obliging ghost).countP (Passage.resolvesTo "unknown") = 0 ∧
        m.requests.total (ofTenant "unknown") = 1 ∧ m.durations.total (ofTenant "unknown") = 1 := by
  have built : Gateway.build unknownTenant (some "static") [] [] = .ok unknownTenantGateway := by
    rfl
  refine ⟨rfl, built, by decide +kernel, by decide +kernel, ?_⟩
  obtain ⟨bytes, same, -⟩ := run_sameTraffic built Gateway.obliging ()
    [.inbound 0 "1" {} ⟨"ghost", "GET", "/openai/chat", .empty, []⟩]
  obtain ⟨requests, durations⟩ := tells_tenant same "unknown"
  exact ⟨requests.exactly (by decide +kernel), durations.exactly (by decide +kernel)⟩

end Service

end TenantGateway
