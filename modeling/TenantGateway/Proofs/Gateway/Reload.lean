/-
A reload is all or nothing.

`reload_all_or_nothing` says of every gateway that a run reaches what a reload makes of it. A list of tenants that breaks a
rule changes nothing, and an accepted one is taken over with everything that goes with it: the registry holds the new tenants,
and the limiter the buckets of those that may still use theirs. In both cases one count grows by one, and what was fixed at
the start stays. `Counters.OneMore` is what it means that one count grows.
-/
import TenantGateway.Proofs.Gateway.Changes
import TenantGateway.Proofs.Limiter.Bound

namespace TenantGateway

/-! ## Counting a reload -/

namespace Counters

/-- a set of labels was counted once more, and no other was -/
structure OneMore (l : Labels) (before after : Counters) : Prop where
  counted : after.get l = before.get l + 1
  others : ∀ k, k ≠ l.key → after.table.get? k = before.table.get? k

theorem get?_increment (c : Counters) (l k : Labels) :
    (c.increment l).table.get? k = if k = l.key then some (c.get l + 1) else c.table.get? k :=
  Table.get?_insert ..

theorem oneMore_increment (c : Counters) (l : Labels) : OneMore l c (c.increment l) where
  counted := by
    rw [get, get?_increment, if_pos rfl]
    rfl
  others k other := by
    rw [get?_increment, if_neg other]

end Counters

/-- a reload with this result was counted, and nothing else was noted -/
def Diagnostics.OneMoreReload (result : String) (before after : Diagnostics) : Prop :=
  ∃ reloads, after = { before with metrics := { before.metrics with reloads } } ∧
    Counters.OneMore [("result", result)] before.metrics.reloads reloads

namespace Gateway

variable {α W : Type}

theorem countReload_oneMore (g : Gateway α) (result : String) :
    Diagnostics.OneMoreReload result g.diagnostics (g.countReload result).diagnostics :=
  ⟨_, rfl, g.diagnostics.metrics.reloads.oneMore_increment _⟩

variable [Quantity α]

/-! ## The two results of a reload -/

theorem reload_refused (g : Gateway α) {next : Config} {e : GatewayError}
    (refused : checkTenants next.tenants g.registry.requestCost = .error e) :
    g.reload next = (g.countReload "error", .error e) := by
  rw [reload_eq, refused]

theorem reload_accepted (g : Gateway α) {next : Config}
    (accepted : checkTenants next.tenants g.registry.requestCost = .ok ()) :
    let current : Snapshot := ⟨next.tenants.map .ofConfig, g.registry.current.generation + 1⟩
    g.reload next =
      ({ g with registry := { g.registry with current }, limiter := g.limiter.sync current }.countReload "ok", .ok ()) := by
  rw [reload_eq, accepted]

theorem reload_closing (g : Gateway α) (next : Config) : (g.reload next).1.closing = g.closing := by
  rw [reload_eq]
  cases checkTenants next.tenants g.registry.requestCost <;> rfl

/-- what a reload leaves of the buckets: those of the new tenants that are enabled -/
theorem bucket_reload (g : Gateway α) {next : Config}
    (accepted : checkTenants next.tenants g.registry.requestCost = .ok ()) (id : String) (b : Bucket α) :
    (g.reload next).1.limiter.buckets.get? id = some b ↔
      ∃ old, g.limiter.buckets.get? id = some old ∧
        ∃ t ∈ next.tenants, t.id = id ∧ t.enabled = true ∧
          b = ⟨Quantity.ofNat t.tokensPerMinute, Quantity.min old.tokens (Quantity.ofNat t.tokensPerMinute), old.last⟩ := by
  have rules := ((checkTenants_eq_ok_iff next.tenants g.registry.requestCost).1 accepted).accepted
    (g.registry.current.generation + 1)
  rw [g.reload_accepted accepted]
  refine (g.limiter.get?_sync_eq_some_iff rules).trans ?_
  simp only [List.mem_map, exists_exists_and_eq_and]
  rfl

/-- **All or nothing.** Take a gateway that was built from a configuration, in any run of requests and reloads, and any
further configuration. If its tenants break a rule under the cost that was fixed at the start, the reload fails and changes
neither registry nor limiter; if they break none, it succeeds, the registry holds exactly them as the next generation, and the
limiter holds the buckets that it had of those of them that are enabled, each with its new budget as its capacity and with as
many of its tokens as that can hold. The reload is counted by its result and nothing else is noted; it touches no token in the
cache; and whatever the rest of the configuration says, the gateway works with what it was started with. -/
theorem reload_all_or_nothing {config : Config} {source : Option String} {backends : List Category} {sinks : List Sink}
    {start : Gateway α} (built : build config source backends sinks = .ok start) (o : Outside W) (world : W)
    (ts : List Turn) (next : Config) :
    let g := ((Service.mk start world).run o ts).gateway
    let after := (g.reload next).1
    let result := (g.reload next).2
    (∀ e, checkTenants next.tenants config.gateway.requestCost = .error e →
      result = .error e ∧ after.registry = g.registry ∧ after.limiter = g.limiter ∧
        Diagnostics.OneMoreReload "error" g.diagnostics after.diagnostics) ∧
    (checkTenants next.tenants config.gateway.requestCost = .ok () →
      result = .ok () ∧
      after.registry.current = ⟨next.tenants.map .ofConfig, g.registry.current.generation + 1⟩ ∧
      (∀ id b, after.limiter.buckets.get? id = some b ↔
        ∃ old, g.limiter.buckets.get? id = some old ∧
          ∃ t ∈ next.tenants, t.id = id ∧ t.enabled = true ∧
            b = ⟨Quantity.ofNat t.tokensPerMinute, Quantity.min old.tokens (Quantity.ofNat t.tokensPerMinute), old.last⟩) ∧
      Diagnostics.OneMoreReload "ok" g.diagnostics after.diagnostics) ∧
    after.cache = g.cache ∧ after.closing = g.closing ∧ after.StartedFrom config source backends := by
  intro g after result
  have started : g.StartedFrom config source backends := run_startedFrom (startedFrom_build built) o world ts
  -- the registry checks under its own cost, which is still that of the start
  refine ⟨?_, ?_, g.reload_cache next, g.reload_closing next, (Change.reloaded g next).startedFrom started⟩
  · intro e refused
    rw [← started.priced] at refused
    have reloaded := g.reload_refused refused
    have left : after = g.countReload "error" := congrArg Prod.fst reloaded
    refine ⟨congrArg Prod.snd reloaded, ?_, ?_, ?_⟩
    · rw [left]
      rfl
    · rw [left]
      rfl
    · rw [left]
      exact g.countReload_oneMore "error"
  · intro accepted
    rw [← started.priced] at accepted
    have reloaded := g.reload_accepted accepted
    have left : after = _ := congrArg Prod.fst reloaded
    refine ⟨congrArg Prod.snd reloaded, ?_, g.bucket_reload accepted, ?_⟩
    · rw [left]
      rfl
    · rw [left]
      exact countReload_oneMore _ "ok"

/-- a configuration with one tenant, who may send ten requests a minute -/
def tenRequests : Config :=
  { version := 1, gateway := { requestCost := 10 }, tenants := [{ id := "acme", tokensPerMinute := 100 }] }

/-- the gateway that is built from it -/
def tenRequestsGateway : Gateway ℚ :=
  { settings := { config := tenRequests, routes := .standard, source := "static", backends := [.openai] }
    registry := ⟨⟨[.ofConfig { id := "acme", tokensPerMinute := 100 }], 1⟩, 10⟩
    limiter := .empty
    cache := .empty 300000000000
    diagnostics := .start []
    closing := false }

/-- the tenant with another budget, in a configuration that is different throughout -/
def withBudget (n : ℕ) : Config :=
  { version := 2, gateway := { requestCost := 1, tenantSource := .header "x" }, routes := some []
    tenants := [{ id := "acme", tokensPerMinute := n }, { id := "other" }] }

/-- a world that gives out a token and answers every request -/
def obliging : Outside Unit where
  fetch w _ _ := ({ answer := .ok ⟨"secret", 60⟩ }, w)
  forward w _ _ := ({ answer := .ok ⟨200, .empty, []⟩ }, w)

/-- a request of the tenant, and a reload that is refused, since five tokens pay for no request -/
def aRequest : List Turn :=
  [.inbound 0 "id" {} ⟨"acme", "POST", "/openai/chat", .empty, []⟩, .reload (withBudget 5)]

/-- **A budget below the cost, and one above it.** -/
theorem reload_all_or_nothing_budget :
    build tenRequests (some "static") [.openai] [] = .ok tenRequestsGateway ∧
    let g := ((Service.mk tenRequestsGateway ()).run obliging aRequest).gateway
    (g.reload (withBudget 5)).1.limiter = g.limiter ∧
      (g.reload (withBudget 50)).1.limiter.buckets.get? "acme" = some ⟨50, 50, 0⟩ ∧
      (g.reload (withBudget 50)).1.settings.config = tenRequests := by
  have built : build tenRequests (some "static") [.openai] [] = .ok tenRequestsGateway := by
    rfl
  obtain ⟨refused, -⟩ := reload_all_or_nothing built obliging () aRequest (withBudget 5)
  obtain ⟨-, accepted, -, -, started⟩ := reload_all_or_nothing built obliging () aRequest (withBudget 50)
  obtain ⟨-, -, kept, -⟩ := refused _ rfl
  obtain ⟨-, -, buckets, -⟩ := accepted rfl
  refine ⟨built, kept, ?_, started.configured⟩
  refine (buckets _ _).2 ⟨⟨100, 90, 0⟩, by decide +kernel, ?_⟩
  exact ⟨{ id := "acme", tokensPerMinute := 50 }, List.mem_cons_self, rfl, rfl, by decide +kernel⟩

end Gateway

end TenantGateway
