/-
All that ever happens to a gateway.

`Change` lists the changes that one step of the gateway's work can make. `Service.run` is a gateway at work: it answers
requests and takes over configurations, one after another, over a world outside.
- `serve_changes`, `handled_changes`: a request comes to a sequence of changes;
- `Service.run_changes`: so does a whole run, and what every change keeps holds of every gateway that a run reaches;
- `StartedFrom`: what a configuration has fixed at the start, which is such a thing (`run_startedFrom`).
-/
import TenantGateway.Gateway.Edge
import TenantGateway.Proofs.Gateway.Course
import TenantGateway.Proofs.Registry.Accepted

namespace TenantGateway

namespace Gateway

variable {α W : Type} [Quantity α]

/-! ## Changes -/

/-- a reload takes over the tenants of a configuration as the next generation, or does nothing but count itself -/
theorem reload_eq (g : Gateway α) (next : Config) :
    g.reload next =
      match checkTenants next.tenants g.registry.requestCost with
      | .ok () =>
        let current : Snapshot := ⟨next.tenants.map .ofConfig, g.registry.current.generation + 1⟩
        ({ g with registry := { g.registry with current }, limiter := g.limiter.sync current }.countReload "ok", .ok ())
      | .error e => (g.countReload "error", .error e) := by
  rw [reload, Registry.reload_eq]
  cases checkTenants next.tenants g.registry.requestCost <;> rfl

theorem reload_requestCost (g : Gateway α) (next : Config) :
    (g.reload next).1.registry.requestCost = g.registry.requestCost := by
  rw [reload_eq]
  cases checkTenants next.tenants g.registry.requestCost <;> rfl

/-- one change of a gateway at work -/
inductive Change : Gateway α → Gateway α → Prop
  | reloaded (g : Gateway α) (next : Config) : Change g (g.reload next).1
  /-- a token was fetched, or was not -/
  | settled (g : Gateway α) (audience : String) (now : ℕ) (answer : FetchAnswer) :
      Change g { g with cache := (g.cache.settle audience now answer).1 }
  /-- the limiter was asked for the cost of a request -/
  | charged (g : Gateway α) (t : Tenant) (now : ℕ) :
      Change g { g with limiter := (g.limiter.charge (some g.registry.current) t g.settings.requestCost now).1 }
  /-- a request has ended -/
  | recorded (g : Gateway α) (r : Record) : Change g { g with diagnostics := g.diagnostics.record r }
  /-- a reply was passed on -/
  | relayed (g : Gateway α) (r : Reply) : Change g (g.relay r)
  | drained (g : Gateway α) : Change g g.drain
  | shut (g : Gateway α) : Change g g.shutDown

/-- changes, one after another -/
abbrev Changes : Gateway α → Gateway α → Prop := Relation.ReflTransGen Change

/-- what every change keeps holds after any number of them -/
theorem Changes.keep {P : Gateway α → Prop} (keeps : ∀ {g g' : Gateway α}, Change g g' → P g → P g') {g g' : Gateway α}
    (changes : Changes g g') (h : P g) : P g' := by
  induction changes with
  | refl => exact h
  | tail _ change ih => exact keeps change ih

theorem reloadAll_changes (g : Gateway α) (configs : List Config) : Changes g (g.reloadAll configs) := by
  induction configs generalizing g with
  | nil => exact .refl
  | cons next configs ih => exact .head (.reloaded g next) (ih (g.reload next).1)

end Gateway

/-! ## Requests -/

namespace Passage

open Gateway

variable {α W : Type} [Quantity α] {p : Passage α W}

theorem supplied_changes (p : Passage α W) : Changes p.gateway p.supplied := by
  have loaded := reloadAll_changes p.gateway p.tokenLoads
  have cache := reloadAll_cache p.gateway p.tokenLoads
  unfold supplied tokenCache
  split_ifs with asks
  · -- the token is put into the cache after the reloads, which have left the cache alone
    have settled := Change.settled (p.gateway.reloadAll p.tokenLoads) Category.serviceAudience p.tokenInstant
      p.tokenCall.answer
    rw [cache] at settled
    exact loaded.tail settled
  · rw [← cache]
    exact loaded

theorem charged_changes (p : Passage α W) (t : Tenant) : Changes p.gateway (p.charged t) := by
  unfold charged charge
  rw [← p.supplied_settings]
  exact p.supplied_changes.tail (.charged p.supplied t p.tokenInstant)

theorem Course.changes {r : Except GatewayError Response} {f : Flight α W} (course : p.Course r f) :
    Changes p.gateway f.gateway := by
  have forwarded (t : Tenant) (token : AccessToken) : Changes p.gateway (p.forwarded t token).gateway :=
    (p.charged_changes t).trans (reloadAll_changes (p.charged t) _)
  cases course with
  | unknown | disabled | unmatched | barred => exact .refl
  | uncredited | unsendable | left => exact p.supplied_changes
  | @revoked t | @throttled t | @leftPaid t | @unplaced t | @leftPlaced t => exact p.charged_changes t
  | @failed t token | @answered t token => exact forwarded t token

/-- a request that is handled comes to a sequence of changes -/
theorem handled_changes (p : Passage α W) : Changes p.gateway p.handled.2.gateway := by
  obtain ⟨r, f, course, handled⟩ := p.handled_course
  rw [handled]
  cases r with
  | ok answer => exact course.changes.tail (.recorded ..)
  | error e => exact course.changes.tail (.recorded ..)

end Passage

namespace Gateway

variable {α W : Type} [Quantity α]

theorem handle_changes (o : Outside W) (g : Gateway α) (world : W) (now : ℕ) (requestId : String) (caller : Caller)
    (r : Inbound) : Changes g (g.handle o world now requestId caller r).2.gateway :=
  Passage.handled_changes ⟨o, g, world, now, requestId, caller, r⟩

theorem proxy_changes (o : Outside W) (g : Gateway α) (world : W) (now : ℕ) (requestId : String) (r : Request) :
    Changes g (g.proxy o world now requestId r).gateway := by
  unfold proxy
  cases g.inbound r with
  | error e => exact .refl
  | ok inbound =>
    have handled := handle_changes o g world now requestId { gone := g.closing } inbound
    dsimp only
    generalize g.handle o world now requestId { gone := g.closing } inbound = ended at handled
    obtain ⟨result, f⟩ := ended
    have left : Changes g (if f.cancelled then f.gateway.shutDown else f.gateway) := by
      split_ifs
      · exact handled.tail (.shut f.gateway)
      · exact handled
    cases result with
    | error e => exact left
    | ok reply =>
      dsimp only
      generalize (if f.cancelled then f.gateway.shutDown else f.gateway) = last at left ⊢
      split_ifs
      · exact left
      · exact left.tail (.relayed _ reply)

/-- **A request comes to a sequence of changes.** -/
theorem serve_changes (o : Outside W) (g : Gateway α) (world : W) (now : ℕ) (requestId : String) (r : Request) :
    Changes g (g.serve o world now requestId r).gateway := by
  unfold serve
  cases OperatorPage.ofPath? r.uri.path with
  | some page =>
    dsimp only
    split_ifs <;> exact .refl
  | none =>
    dsimp only
    split_ifs <;> exact proxy_changes o g world now requestId r

end Gateway

/-! ## A gateway at work -/

/-- what comes to a gateway -/
inductive Turn where
  /-- a request over HTTP -/
  | request (now : ℕ) (requestId : String) (r : Request)
  /-- a request whose tenant was read off, and whose caller may leave -/
  | inbound (now : ℕ) (requestId : String) (caller : Caller) (r : Inbound)
  | reload (next : Config)
  | drain
  | shutDown

/-- a gateway and the world outside -/
structure Service (α W : Type) where
  gateway : Gateway α
  world : W

namespace Service

open Gateway

variable {α W : Type} [Quantity α]

/-- the service after one turn -/
def step (o : Outside W) (s : Service α W) : Turn → Service α W
  | .request now requestId r =>
    let served := s.gateway.serve o s.world now requestId r
    ⟨served.gateway, served.world⟩
  | .inbound now requestId caller r =>
    let handled := s.gateway.handle o s.world now requestId caller r
    ⟨handled.2.gateway, handled.2.world⟩
  | .reload next => { s with gateway := (s.gateway.reload next).1 }
  | .drain => { s with gateway := s.gateway.drain }
  | .shutDown => { s with gateway := s.gateway.shutDown }

/-- the service after a list of turns -/
def run (o : Outside W) (s : Service α W) (ts : List Turn) : Service α W :=
  ts.foldl (step o) s

theorem run_cons (o : Outside W) (s : Service α W) (t : Turn) (ts : List Turn) :
    s.run o (t :: ts) = (s.step o t).run o ts := rfl

theorem step_changes (o : Outside W) (s : Service α W) (t : Turn) : Changes s.gateway (s.step o t).gateway := by
  cases t with
  | request now requestId r => exact serve_changes o s.gateway s.world now requestId r
  | inbound now requestId caller r => exact handle_changes o s.gateway s.world now requestId caller r
  | reload next => exact .single (.reloaded s.gateway next)
  | drain => exact .single (.drained s.gateway)
  | shutDown => exact .single (.shut s.gateway)

/-- **A run comes to a sequence of changes.** -/
theorem run_changes (o : Outside W) (s : Service α W) (ts : List Turn) : Changes s.gateway (s.run o ts).gateway := by
  induction ts generalizing s with
  | nil => exact .refl
  | cons t ts ih => exact (step_changes o s t).trans (ih (s.step o t))

end Service

/-! ## What is fixed at the start -/

theorem CredentialCache.take_skew (c : CredentialCache) (audience : String) (now : ℕ)
    (answer : Except GatewayError AccessToken) : (c.take audience now answer).1.skew = c.skew := by
  cases answer with
  | ok token => rfl
  | error e =>
    unfold take
    dsimp only
    split <;> rfl

namespace Gateway

variable {α W : Type}

/-- what a gateway works with is what it was started with -/
structure StartedFrom (g : Gateway α) (config : Config) (source : Option String) (backends : List Category) : Prop where
  configured : g.settings.config = config
  routed : config.routeTable = .ok g.settings.routes
  named : source = some g.settings.source
  served : g.settings.backends = backends
  priced : g.registry.requestCost = config.gateway.requestCost
  skew : g.cache.skew = config.credentials.refreshSkewSecs * 1000000000

variable {g g' : Gateway α} {config : Config} {source : Option String} {backends : List Category} {sinks : List Sink}

/-- a gateway is built from a valid configuration, and from nothing but what is needed for it -/
theorem build_eq_ok_iff :
    build config source backends sinks = .ok g ↔
      config.validate = .ok () ∧
      ∃ name registry routes, source = some name ∧
        Registry.make config.tenants config.gateway.requestCost = .ok registry ∧ config.routeTable = .ok routes ∧
        g = { settings := { config, routes, source := name, backends }
              registry
              limiter := .empty
              cache := .empty (config.credentials.refreshSkewSecs * 1000000000)
              diagnostics := .start sinks
              closing := false } := by
  unfold build
  cases config.validate with
  | error e => simp [bind, Except.bind]
  | ok u =>
    cases source with
    | none => simp [bind, Except.bind]
    | some name =>
      cases made : Registry.make config.tenants config.gateway.requestCost with
      | error e => simp [bind, Except.bind]
      | ok registry =>
        cases routed : config.routeTable with
        | error e => simp [bind, Except.bind]
        | ok routes => simp [bind, Except.bind, pure, Except.pure, eq_comm]

theorem startedFrom_build (built : build config source backends sinks = .ok g) :
    g.StartedFrom config source backends := by
  obtain ⟨-, name, registry, routes, named, made, routed, rfl⟩ := build_eq_ok_iff.1 built
  exact ⟨rfl, routed, named, rfl, Registry.requestCost_make made, rfl⟩

variable [Quantity α]

theorem Change.startedFrom (change : Change g g') (h : g.StartedFrom config source backends) :
    g'.StartedFrom config source backends := by
  cases change with
  | reloaded next =>
    have settings := g.reload_settings next
    refine ⟨?_, ?_, ?_, ?_, ?_, ?_⟩
    · rw [settings, h.configured]
    · rw [settings, h.routed]
    · rw [settings, h.named]
    · rw [settings, h.served]
    · rw [reload_requestCost, h.priced]
    · rw [reload_cache, h.skew]
  | settled audience now answer =>
    exact { h with skew := (g.cache.take_skew ..).trans h.skew }
  | charged t now => exact { h with }
  | recorded r => exact { h with }
  | relayed r =>
    unfold relay
    cases r.countedFor with
    | none => exact h
    | some tenant => exact { h with }
  | drained => exact { h with }
  | shut => exact { h with }

/-- no change takes over tenants that break the rules -/
theorem Change.accepted (change : Change g g') (h : g.registry.Accepted) : g'.registry.Accepted := by
  cases change with
  | reloaded next =>
    rw [reload_eq]
    cases checked : checkTenants next.tenants g.registry.requestCost with
    | error e => exact h
    | ok u => exact ((checkTenants_eq_ok_iff ..).1 checked).accepted _
  | relayed r =>
    unfold relay
    cases r.countedFor <;> exact h
  | settled | charged | recorded | drained | shut => exact h

/-- the tenants of a gateway at work follow the rules -/
theorem run_accepted (built : build config source backends sinks = .ok g) (o : Outside W) (world : W) (ts : List Turn) :
    ((Service.mk g world).run o ts).gateway.registry.Accepted := by
  obtain ⟨-, name, registry, routes, -, made, -, rfl⟩ := build_eq_ok_iff.1 built
  exact (Service.run_changes o ⟨_, world⟩ ts).keep Change.accepted (Registry.accepted_make made)

/-- a gateway works with what it was started with, whatever comes to it -/
theorem run_startedFrom (h : g.StartedFrom config source backends) (o : Outside W) (world : W) (ts : List Turn) :
    ((Service.mk g world).run o ts).gateway.StartedFrom config source backends :=
  (Service.run_changes o ⟨g, world⟩ ts).keep Change.startedFrom h

end Gateway

end TenantGateway
