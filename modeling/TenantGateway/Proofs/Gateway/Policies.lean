/-
Two gateways that differ in the policies and the display names of their tenants, and in what was observed for them.

Whatever is known of a tenant has a `bare` form, without policy and display name. Two gateways are alike (`Gateway.Alike`) if
they are the same in bare form, and in their metrics apart from the bytes of streams; in the events logged they may differ by
tags and events of usage. What the rest of a gateway asks of tenants it asks of their bare forms: which lists are accepted
(`checkTenants_alike`), who is found (`Registry.resolve_alike`) and who has which budget (`Snapshot.budget?_alike`). So a record
(`Diagnostics.Alike.record`) and a reload (`Gateway.Alike.reload`) leave gateways alike.
-/
import TenantGateway.Proofs.Gateway.Recorded

namespace TenantGateway

/-! ## Without policies and display names -/

/-- a tenant's configuration without policy and display name -/
def TenantConfig.bare (t : TenantConfig) : TenantConfig :=
  { t with displayName := none, policy := {} }

/-- a configuration whose tenants have neither -/
def Config.bare (c : Config) : Config :=
  { c with tenants := c.tenants.map TenantConfig.bare }

/-- a tenant without policy and display name -/
def Tenant.bare (t : Tenant) : Tenant :=
  { t with displayName := "", policy := {} }

def Snapshot.bare (s : Snapshot) : Snapshot :=
  { s with tenants := s.tenants.map Tenant.bare }

def Registry.bare (r : Registry) : Registry :=
  { r with current := r.current.bare }

def Settings.bare (s : Settings) : Settings :=
  { s with config := s.config.bare }

theorem Tenant.bare_eq_iff {t t' : Tenant} :
    t.bare = t'.bare ↔
      t.id = t'.id ∧ t.enabled = t'.enabled ∧ t.backends = t'.backends ∧ t.tokensPerMinute = t'.tokensPerMinute := by
  simp [bare]

theorem Snapshot.bare_eq_iff {s s' : Snapshot} :
    s.bare = s'.bare ↔ s.tenants.map Tenant.bare = s'.tenants.map Tenant.bare ∧ s.generation = s'.generation := by
  simp [bare]

theorem Registry.bare_eq_iff {r r' : Registry} :
    r.bare = r'.bare ↔ r.current.bare = r'.current.bare ∧ r.requestCost = r'.requestCost := by
  simp [bare]

theorem Tenant.bare_ofConfig (c : TenantConfig) : (ofConfig c).bare = (ofConfig c.bare).bare := rfl

theorem Tenant.bare_ofConfig_alike {ts ts' : List TenantConfig}
    (same : ts.map TenantConfig.bare = ts'.map TenantConfig.bare) :
    (ts.map ofConfig).map Tenant.bare = (ts'.map ofConfig).map Tenant.bare := by
  have bare (ts : List TenantConfig) :
      (ts.map ofConfig).map Tenant.bare = (ts.map TenantConfig.bare).map fun c => (ofConfig c).bare := by
    simp only [List.map_map, Function.comp_def, ← bare_ofConfig]
  rw [bare, bare, same]

/-! ## What is asked of tenants -/

theorem tenantsFault?_bare (cost : ℕ) (seen : List String) (ts : List TenantConfig) :
    tenantsFault? cost seen (ts.map TenantConfig.bare) = tenantsFault? cost seen ts := by
  induction ts generalizing seen with
  | nil => rfl
  | cons t ts ih =>
    rw [List.map_cons, tenantsFault?, tenantsFault?, ih]
    rfl

/-- a list of tenants is accepted or refused whatever their policies -/
theorem checkTenants_alike {ts ts' : List TenantConfig} (same : ts.map TenantConfig.bare = ts'.map TenantConfig.bare)
    (cost : ℕ) : checkTenants ts cost = checkTenants ts' cost := by
  rw [checkTenants, checkTenants, ← tenantsFault?_bare, same, tenantsFault?_bare]

namespace Snapshot

variable {s s' : Snapshot}

theorem get?_bare (s : Snapshot) (id : String) : s.bare.get? id = (s.get? id).map Tenant.bare := by
  rw [get?, bare, List.find?_map]
  rfl

theorem get?_alike (same : s.bare = s'.bare) (id : String) : (s.get? id).map Tenant.bare = (s'.get? id).map Tenant.bare := by
  rw [← get?_bare, ← get?_bare, same]

theorem budget?_bare (s : Snapshot) (id : String) : s.bare.budget? id = s.budget? id := by
  rw [budget?, budget?, get?_bare]
  cases s.get? id with
  | none => rfl
  | some t =>
    cases enabled : t.enabled <;> simp [Option.filter, Tenant.bare, enabled]

theorem budget?_alike (same : s.bare = s'.bare) (id : String) : s.budget? id = s'.budget? id := by
  rw [← budget?_bare, same, budget?_bare]

theorem size_alike (same : s.bare = s'.bare) : s.size = s'.size := by
  have bare (s : Snapshot) : s.bare.size = s.size := List.length_map _
  rw [← bare, same, bare]

end Snapshot

/-- two results are failures alike, or values of which something holds -/
def Except.Both {ε β : Type} (R : β → β → Prop) : Except ε β → Except ε β → Prop
  | .ok b, .ok b' => R b b'
  | .error e, .error e' => e = e'
  | _, _ => False

theorem Except.Both.cases {ε β : Type} {R : β → β → Prop} {r r' : Except ε β} (both : Except.Both R r r') :
    (∃ b b', r = .ok b ∧ r' = .ok b' ∧ R b b') ∨ ∃ e, r = .error e ∧ r' = .error e := by
  cases r with
  | ok b =>
    cases r' with
    | ok b' => exact .inl ⟨b, b', rfl, rfl, both⟩
    | error e' => exact both.elim
  | error e =>
    cases r' with
    | ok b' => exact both.elim
    | error e' =>
      have same : e = e' := both
      exact .inr ⟨e, rfl, by rw [same]⟩

theorem Except.both_of_eq {ε β : Type} {r r' : Except ε β} (same : r = r') : Except.Both Eq r r' := by
  subst same
  cases r <;> rfl

namespace Registry

variable {r r' : Registry}

/-- the same ids are found, each for a tenant that is the same in bare form -/
theorem resolve_alike (same : r.bare = r'.bare) (id : String) :
    Except.Both (fun t t' => t.bare = t'.bare) (r.resolve id) (r'.resolve id) := by
  have found := Snapshot.get?_alike (bare_eq_iff.1 same).1 id
  unfold resolve
  cases here : r.current.get? id with
  | none =>
    cases there : r'.current.get? id with
    | none => rfl
    | some t' => simp [here, there] at found
  | some t =>
    cases there : r'.current.get? id with
    | none => simp [here, there] at found
    | some t' =>
      rw [here, there] at found
      exact Option.some.inj found

theorem revocation_alike (same : r.bare = r'.bare) (id : String) : r.revocation id = r'.revocation id := by
  unfold revocation
  rcases (resolve_alike same id).cases with ⟨t, t', here, there, -⟩ | ⟨e, here, there⟩
  · rw [here, there]
  · rw [here, there]

end Registry

namespace Limiter

variable {α : Type} [Quantity α] {s s' : Snapshot}

theorem sync_alike (l : Limiter α) (same : s.bare = s'.bare) : l.sync s = l.sync s' := by
  simp only [sync, Snapshot.budget?_alike same]

theorem charge_alike (l : Limiter α) (same : s.bare = s'.bare) {t t' : Tenant} (tenants : t.bare = t'.bare) (cost : ℕ)
    (now : ℤ) : l.charge (some s) t cost now = l.charge (some s') t' cost now := by
  obtain ⟨id, -⟩ := Tenant.bare_eq_iff.1 tenants
  simp only [charge, liveBudget, id, Snapshot.budget?_alike same]

end Limiter

/-! ## Records and events -/

/-- a record without what a policy adds to it -/
def Record.bare (r : Record) : Record :=
  { r with usageLogging := false, tags := [] }

/-- an event of the log without tags -/
def Event.bare (e : Event) : Event :=
  { e with fields := e.fields.filter fun f => f.1 ≠ "tags" }

/-- the events of a log that do not tell of usage, without tags -/
def Event.bareLog (events : List Event) : List Event :=
  (events.filter fun e => e.target ≠ "aihub::usage").map Event.bare

/-- a log differs from the log of bare records in events of usage and in tags alone -/
theorem Record.bareLog_events (r : Record) : Event.bareLog r.events = Event.bareLog r.bare.events := by
  obtain ⟨requestId, tenantId, tenantLabel, category, stage, remaining, outcome, latency, usageLogging, tags⟩ := r
  cases outcome with
  | success status => cases usageLogging <;> rfl
  | error code => rfl

/-- what is known of a request without its tenant's policy and without tags -/
def RequestContext.bare (c : RequestContext) : RequestContext :=
  { c with tenant := c.tenant.map Tenant.bare, tags := [] }

theorem Record.bare_ofContext (c : RequestContext) (outcome : Outcome) (now : ℕ) :
    (ofContext c outcome now).bare = (ofContext c.bare outcome now).bare := by
  cases tenant : c.tenant <;> simp [ofContext, bare, RequestContext.bare, tenant, Tenant.bare, RequestContext.remaining?]

/-- a sink takes records without regard to what a policy adds to them -/
def Sink.IgnoresPolicies (s : Sink) : Prop :=
  ∀ before before' r r', before.map Record.bare = before'.map Record.bare → r.bare = r'.bare →
    s.accepts before r = s.accepts before' r'

def SinkState.bare (s : SinkState) : SinkState :=
  { s with given := s.given.map Record.bare }

theorem SinkState.bare_eq_iff {s s' : SinkState} :
    s.bare = s'.bare ↔ s.sink = s'.sink ∧ s.given.map Record.bare = s'.given.map Record.bare := by
  simp [bare]

/-- metrics without the two families that policies, or sinks that regard them, bear on -/
def Metrics.bare (m : Metrics) : Metrics :=
  { m with streamBytes := .empty, dropped := .empty }

theorem Metrics.bare_count (m : Metrics) (r : Record) : (m.count r).bare = (m.bare.count r.bare).bare := rfl

namespace Diagnostics

/-- the same was measured, logged and given to sinks, but for what policies add -/
structure Alike (d d' : Diagnostics) : Prop where
  metrics : d.metrics.bare = d'.metrics.bare
  events : Event.bareLog d.events = Event.bareLog d'.events
  sinks : d.sinks.map SinkState.bare = d'.sinks.map SinkState.bare
  /-- the same records were refused, if no sink regards what policies add -/
  dropped : (∀ s ∈ d.sinks, s.sink.IgnoresPolicies) → d.metrics.dropped = d'.metrics.dropped

theorem Alike.refl (d : Diagnostics) : Alike d d := ⟨rfl, rfl, rfl, fun _ => rfl⟩

/-- the sinks do not bear on anything but the records refused -/
theorem bare_distribute (r : Record) (m : Metrics) (sinks : List SinkState) : (distribute r m sinks).1.bare = m.bare := by
  induction sinks generalizing m with
  | nil => rfl
  | cons s rest ih =>
    refine (ih _).trans ?_
    split_ifs <;> rfl

theorem dropped_distribute {r r' : Record} (same : r.bare = r'.bare) {sinks sinks' : List SinkState}
    (alike : sinks.map SinkState.bare = sinks'.map SinkState.bare) (ignore : ∀ s ∈ sinks, s.sink.IgnoresPolicies)
    {m m' : Metrics} (dropped : m.dropped = m'.dropped) :
    (distribute r m sinks).1.dropped = (distribute r' m' sinks').1.dropped := by
  induction sinks generalizing sinks' m m' with
  | nil =>
    obtain rfl : sinks' = [] := List.map_eq_nil_iff.1 alike.symm
    exact dropped
  | cons s rest ih =>
    obtain ⟨s', rest', rfl, first, later⟩ := List.map_eq_cons_iff.1 alike.symm
    obtain ⟨sink, given⟩ := SinkState.bare_eq_iff.1 first
    have accepts : s.sink.accepts s.given r = s'.sink.accepts s'.given r' := by
      rw [sink]
      exact ignore s List.mem_cons_self _ _ _ _ given.symm same
    refine ih later.symm (fun s member => ignore s (List.mem_cons_of_mem _ member)) ?_
    rw [accepts, sink]
    split_ifs
    · exact dropped
    · simp only [Metrics.countDropped, dropped]

/-- records that policies have added to leave alike what was alike -/
theorem Alike.record {d d' : Diagnostics} (alike : Alike d d') {r r' : Record} (same : r.bare = r'.bare) :
    Alike (d.record r) (d'.record r') where
  metrics := by
    have counted : (d.metrics.count r).bare = (d'.metrics.count r').bare := by
      rw [Metrics.bare_count, alike.metrics, same, ← Metrics.bare_count]
    exact (bare_distribute r _ d.sinks).trans (counted.trans (bare_distribute r' _ d'.sinks).symm)
  events := by
    have added : Event.bareLog r.events = Event.bareLog r'.events := by
      rw [r.bareLog_events, same, ← r'.bareLog_events]
    have log (before after : List Event) : Event.bareLog (before ++ after) = Event.bareLog before ++ Event.bareLog after := by
      simp only [Event.bareLog, List.filter_append, List.map_append]
    exact (log _ _).trans ((congrArg₂ _ alike.events added).trans (log _ _).symm)
  sinks := by
    have given (r : Record) (sinks : List SinkState) :
        (sinks.map fun s => { s with given := s.given ++ [r] }).map SinkState.bare =
          (sinks.map SinkState.bare).map fun s => { s with given := s.given ++ [r.bare] } := by
      simp only [List.map_map, Function.comp_def, SinkState.bare, List.map_append, List.map_cons, List.map_nil]
    have left : (d.record r).sinks = _ := distribute_sinks r _ d.sinks
    have right : (d'.record r').sinks = _ := distribute_sinks r' _ d'.sinks
    rw [left, right, given, given, alike.sinks, same]
  dropped ignore := by
    have before : ∀ s ∈ d.sinks, s.sink.IgnoresPolicies := by
      have left : (d.record r).sinks = _ := distribute_sinks r _ d.sinks
      rw [left] at ignore
      intro s member
      exact ignore { s with given := s.given ++ [r] } (List.mem_map.2 ⟨s, member, rfl⟩)
    exact dropped_distribute same alike.sinks before (alike.dropped before)

end Diagnostics

/-! ## Gateways -/

namespace Gateway

variable {α : Type}

/-- the same gateway, but for the policies and the display names of tenants, and for what policies have observed -/
structure Alike (g g' : Gateway α) : Prop where
  settings : g.settings.bare = g'.settings.bare
  registry : g.registry.bare = g'.registry.bare
  limiter : g.limiter = g'.limiter
  cache : g.cache = g'.cache
  diagnostics : g.diagnostics.Alike g'.diagnostics
  closing : g.closing = g'.closing

variable {g g' : Gateway α}

/-- metrics that change alike, in whatever families, leave gateways alike -/
theorem Alike.withMetrics (alike : Alike g g') {f f' : Metrics → Metrics}
    (bare : ∀ m m' : Metrics, m.bare = m'.bare → (f m).bare = (f' m').bare)
    (dropped : ∀ m m' : Metrics, m.dropped = m'.dropped → (f m).dropped = (f' m').dropped) :
    Alike (g.withMetrics f) (g'.withMetrics f') :=
  { alike with
    diagnostics :=
      { alike.diagnostics with
        metrics := bare _ _ alike.diagnostics.metrics
        dropped := fun ignore => dropped _ _ (alike.diagnostics.dropped ignore) } }

theorem Alike.totals (alike : Alike g g') : g.totals = g'.totals := by
  have size : g.registry.current.size = g'.registry.current.size :=
    Snapshot.size_alike (Registry.bare_eq_iff.1 alike.registry).1
  simp only [Gateway.totals, size, alike.limiter, alike.cache]

theorem Alike.requestCost (alike : Alike g g') : g.settings.requestCost = g'.settings.requestCost :=
  congrArg (·.config.gateway.requestCost) alike.settings

theorem Alike.countReload (alike : Alike g g') (result : String) : Alike (g.countReload result) (g'.countReload result) := by
  refine alike.withMetrics (fun m m' same => ?_) (fun m m' same => same)
  exact congrArg (fun m : Metrics => { m with reloads := m.reloads.increment [("result", result)] }) same

theorem Alike.drain (alike : Alike g g') : Alike g.drain g'.drain := by
  refine alike.withMetrics (fun m m' same => ?_) (fun m m' same => same)
  exact congrArg (fun m : Metrics => { m with draining := true }) same

theorem Alike.shutDown (alike : Alike g g') : Alike g.shutDown g'.shutDown :=
  { alike with closing := rfl }

/-- passing on a body, or none, is counted in one family at most -/
theorem bare_relay (m : Metrics) (tenant : String) (body : List Chunk) : (m.relay tenant body).bare = m.bare := by
  obtain ⟨bytes, relayed, -⟩ := m.relay_traffic tenant body
  rw [relayed]
  rfl

theorem dropped_relay (m : Metrics) (tenant : String) (body : List Chunk) : (m.relay tenant body).dropped = m.dropped := by
  obtain ⟨bytes, relayed, -⟩ := m.relay_traffic tenant body
  rw [relayed]

/-- a reply is passed on -/
theorem Alike.relay (alike : Alike g g') (r r' : Reply) : Alike (g.relay r) (g'.relay r') := by
  have metrics (g : Gateway α) (r : Reply) :
      ∃ f : Metrics → Metrics, (∀ m, (f m).bare = m.bare ∧ (f m).dropped = m.dropped) ∧ g.relay r = g.withMetrics f := by
    unfold Gateway.relay
    cases r.countedFor with
    | none => exact ⟨id, fun _ => ⟨rfl, rfl⟩, rfl⟩
    | some tenant => exact ⟨_, fun m => ⟨bare_relay m tenant r.body, dropped_relay m tenant r.body⟩, rfl⟩
  obtain ⟨f, kept, relayed⟩ := metrics g r
  obtain ⟨f', kept', relayed'⟩ := metrics g' r'
  rw [relayed, relayed']
  refine alike.withMetrics (fun m m' same => ?_) (fun m m' same => ?_)
  · rw [(kept m).1, (kept' m').1, same]
  · rw [(kept m).2, (kept' m').2, same]

variable [Quantity α]

/-- configurations that differ in policies and display names are taken over alike -/
theorem Alike.reload (alike : Alike g g') {next next' : Config} (same : next.bare = next'.bare) :
    Alike (g.reload next).1 (g'.reload next').1 := by
  have tenants : next.tenants.map TenantConfig.bare = next'.tenants.map TenantConfig.bare := congrArg Config.tenants same
  obtain ⟨before, cost⟩ := Registry.bare_eq_iff.1 alike.registry
  obtain ⟨-, generation⟩ := Snapshot.bare_eq_iff.1 before
  have current (n : ℕ) :
      Snapshot.bare ⟨next.tenants.map .ofConfig, n⟩ = Snapshot.bare ⟨next'.tenants.map .ofConfig, n⟩ :=
    Snapshot.bare_eq_iff.2 ⟨Tenant.bare_ofConfig_alike tenants, rfl⟩
  rw [reload_eq, reload_eq, checkTenants_alike tenants, cost, generation]
  cases checkTenants next'.tenants g'.registry.requestCost with
  | error e => exact alike.countReload "error"
  | ok u =>
    refine Alike.countReload ?_ "ok"
    have limiter : g.limiter.sync ⟨next.tenants.map .ofConfig, g'.registry.current.generation + 1⟩ =
        g'.limiter.sync ⟨next'.tenants.map .ofConfig, g'.registry.current.generation + 1⟩ := by
      rw [alike.limiter, Limiter.sync_alike _ (current _)]
    exact { alike with registry := Registry.bare_eq_iff.2 ⟨current _, cost⟩, limiter }

theorem Alike.reloadAll (alike : Alike g g') {configs configs' : List Config}
    (same : configs.map Config.bare = configs'.map Config.bare) : Alike (g.reloadAll configs) (g'.reloadAll configs') := by
  induction configs generalizing g g' configs' with
  | nil =>
    obtain rfl : configs' = [] := List.map_eq_nil_iff.1 same.symm
    exact alike
  | cons next configs ih =>
    obtain ⟨next', configs', rfl, first, later⟩ := List.map_eq_cons_iff.1 same.symm
    exact ih (alike.reload first.symm) later.symm

end Gateway

end TenantGateway
