/-
A reload that reports no change is as good as a restart.

`Gateway.SameRules` says that two gateways treat requests by the same rules. `reload_equals_restart` compares a gateway that a run
has reached and that reloads a configuration with a gateway built from that configuration: unless a section is reported as
changed, the two treat every request by the same rules. Which sections are reported is said by their fields
(`Config.mem_fixedChanges_iff`).
-/
import TenantGateway.Proofs.Config.Changes
import TenantGateway.Proofs.Config.Valid
import TenantGateway.Proofs.Gateway.Reload

namespace TenantGateway

namespace Gateway

variable {α W : Type}

/-- two gateways have the same tenants, generations aside, and are set up alike -/
structure SameRules (g g' : Gateway α) : Prop where
  tenants : g.registry.current.tenants = g'.registry.current.tenants
  routes : g.settings.routes = g'.settings.routes
  tenantSource : g.settings.config.gateway.tenantSource = g'.settings.config.gateway.tenantSource
  requestCost : g.settings.requestCost = g'.settings.requestCost
  /-- the cost that tenants have to afford when they are reloaded -/
  registryCost : g.registry.requestCost = g'.registry.requestCost
  bodyLimit : g.settings.config.gateway.maxBodyBytes = g'.settings.config.gateway.maxBodyBytes
  timeout : g.settings.timeout = g'.settings.timeout
  skew : g.cache.skew = g'.cache.skew
  source : g.settings.source = g'.settings.source
  backends : g.settings.backends = g'.settings.backends

namespace SameRules

variable {g g' : Gateway α}

theorem resolve (same : SameRules g g') (id : String) : g.registry.resolve id = g'.registry.resolve id := by
  rw [Registry.resolve, Registry.resolve, Snapshot.get?, Snapshot.get?, same.tenants]

theorem classify (same : SameRules g g') (path : String) :
    g.settings.routes.classify path = g'.settings.routes.classify path := by
  rw [same.routes]

theorem inbound (same : SameRules g g') (r : Request) : g.inbound r = g'.inbound r := by
  simp only [Gateway.inbound, same.tenantSource, same.bodyLimit]

end SameRules

/-! ## Built from the same settings -/

variable {g g' : Gateway α} {config : Config} {source : Option String} {backends : List Category} {sinks : List Sink}

/-- a gateway is built wherever its configuration is valid and there is a token source -/
theorem build_isOk (valid : config.validate = .ok ()) (name : String) (backends : List Category) (sinks : List Sink) :
    ∃ g : Gateway α, build config (some name) backends sinks = .ok g ∧
      g.registry.current.tenants = config.tenants.map .ofConfig := by
  obtain ⟨-, -, -, -, -, ⟨routes, routed⟩, accepted⟩ := (Config.validate_eq_ok_iff config).1 valid
  have made : Registry.make config.tenants config.gateway.requestCost =
      .ok ⟨⟨config.tenants.map .ofConfig, 1⟩, config.gateway.requestCost⟩ := by
    rw [Registry.make_eq, accepted]
    rfl
  exact ⟨_, build_eq_ok_iff.2 ⟨valid, name, _, routes, rfl, made, routed, rfl⟩, rfl⟩

/-- two gateways that were started alike but for their first tenants differ in nothing but their tenants -/
theorem StartedFrom.sameRules {ts : List TenantConfig} (h : g.StartedFrom config source backends)
    (h' : g'.StartedFrom { config with tenants := ts } source backends)
    (tenants : g.registry.current.tenants = g'.registry.current.tenants) : SameRules g g' where
  tenants := tenants
  routes := Except.ok.inj (h.routed.symm.trans h'.routed)
  tenantSource := by rw [h.configured, h'.configured]
  requestCost := by rw [Settings.requestCost, Settings.requestCost, h.configured, h'.configured]
  registryCost := h.priced.trans h'.priced.symm
  bodyLimit := by rw [h.configured, h'.configured]
  timeout := by rw [Settings.timeout, Settings.timeout, h.configured, h'.configured]
  skew := h.skew.trans h'.skew.symm
  source := Option.some.inj (h.named.symm.trans h'.named)
  backends := h.served.trans h'.served.symm

variable [Quantity α]

/-- **A reload in place of a restart.** Take a gateway that was built from a configuration, in any run of requests and reloads,
and a further configuration that is valid. The sections reported as changed come in one order, each at most once, and they are
exactly those in which a field differs. If none is reported, the reload succeeds, and what it leaves goes by the same rules as any
gateway that is built from the further configuration with the same token source and the same backends, and there is one: both
resolve each id, classify each path and read each request in the same way. -/
theorem reload_equals_restart {start : Gateway α} (built : build config source backends sinks = .ok start) (o : Outside W)
    (world : W) (ts : List Turn) {next : Config} (valid : next.validate = .ok ()) (sinks' : List Sink) :
    let g := ((Service.mk start world).run o ts).gateway
    let after := (g.reload next).1
    ((config.fixedChanges next).map FixedSection.name).Sublist ["version", "gateway", "backends", "credentials", "routes"] ∧
    (∀ s, s ∈ config.fixedChanges next ↔ ∃ f : FixedSection.Field, f.home = s ∧ config.leaf? f ≠ next.leaf? f) ∧
    (config.fixedChanges next = [] →
      (g.reload next).2 = .ok () ∧
      ∃ fresh : Gateway α, build next source backends sinks' = .ok fresh ∧ SameRules after fresh ∧
        (∀ id, after.registry.resolve id = fresh.registry.resolve id) ∧
        (∀ path, after.settings.routes.classify path = fresh.settings.routes.classify path) ∧
        ∀ r, after.inbound r = fresh.inbound r) := by
  intro g after
  have started : g.StartedFrom config source backends := run_startedFrom (startedFrom_build built) o world ts
  refine ⟨(config.fixedChanges_sublist next).map _, config.mem_fixedChanges_iff next, fun unchanged => ?_⟩
  -- nothing is reported, so that all but the tenants is that of the start
  have same : { config with tenants := next.tenants } = next := (config.fixedChanges_eq_nil_iff next).1 unchanged
  have accepted : checkTenants next.tenants g.registry.requestCost = .ok () := by
    obtain ⟨-, -, -, -, -, -, accepted⟩ := (Config.validate_eq_ok_iff next).1 valid
    rw [started.priced]
    rwa [← same] at accepted
  have reloaded := g.reload_accepted accepted
  have left : after = _ := congrArg Prod.fst reloaded
  have kept : after.StartedFrom config source backends := (Change.reloaded g next).startedFrom started
  obtain ⟨fresh, builtFresh, freshTenants⟩ := build_isOk (α := α) valid g.settings.source backends sinks'
  rw [← started.named] at builtFresh
  have startedFresh : fresh.StartedFrom { config with tenants := next.tenants } source backends := by
    rw [same]
    exact startedFrom_build builtFresh
  have tenants : after.registry.current.tenants = fresh.registry.current.tenants := by
    rw [left, freshTenants]
    rfl
  have rules := kept.sameRules startedFresh tenants
  exact ⟨congrArg Prod.snd reloaded, fresh, builtFresh, rules, rules.resolve, rules.classify, rules.inbound⟩

/-- the configuration with one tenant more, and a smaller budget for the one it has -/
def oneMoreTenant : Config :=
  { tenRequests with tenants := [{ id := "acme", tokensPerMinute := 50 }, { id := "other" }] }

/-- **A tenant more, after a request of the one before.** -/
theorem reload_equals_restart_tenant :
    build tenRequests (some "static") [.openai] [] = .ok tenRequestsGateway ∧ oneMoreTenant.validate = .ok () ∧
    let g := ((Service.mk tenRequestsGateway ()).run obliging aRequest).gateway
    tenRequests.fixedChanges oneMoreTenant = [] ∧ (g.reload oneMoreTenant).2 = .ok () ∧
      ∃ fresh, build oneMoreTenant (some "static") [.openai] [] = .ok fresh ∧ SameRules (g.reload oneMoreTenant).1 fresh := by
  have built : build tenRequests (some "static") [.openai] [] = .ok tenRequestsGateway := by
    rfl
  have valid : oneMoreTenant.validate = .ok () := by
    decide +kernel
  have unchanged : tenRequests.fixedChanges oneMoreTenant = [] := by
    decide +kernel
  obtain ⟨-, -, restart⟩ := reload_equals_restart built obliging () aRequest valid []
  obtain ⟨accepted, fresh, builtFresh, rules, -⟩ := restart unchanged
  exact ⟨built, valid, unchanged, accepted, fresh, builtFresh, rules⟩

end Gateway

end TenantGateway
