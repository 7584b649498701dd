/-
A gateway without the sinks that were added to it.

`sinkless` takes the added sinks away, and the counts of what they refused. Nothing that a gateway does depends on either: whatever is done
to a gateway without sinks comes to the same, and leaves what is left of the other one when its sinks are taken away.
- `Diagnostics.sinkless_record`: a record is counted and logged alike, whatever sinks make of it;
- `Gate.Blind`: a gate that does not look at sinks; `Gate.blind_pass`: none does on the whole way of a request;
- `Passage.sinkless_handled`, `Gateway.sinkless_serve`: a request is handled alike, and answered alike over HTTP unless it is for the
  metrics.
-/
import TenantGateway.Proofs.Gateway.Observed

namespace TenantGateway

/-! ## Records and reloads -/

/-- metrics without what sinks have refused -/
def Metrics.untallied (m : Metrics) : Metrics :=
  { m with dropped := .empty }

namespace Diagnostics

/-- without the sinks that were added, and without what they have refused -/
def sinkless (d : Diagnostics) : Diagnostics :=
  { d with metrics := d.metrics.untallied, sinks := [] }

theorem untallied_distribute (r : Record) (m : Metrics) (sinks : List SinkState) : (distribute r m sinks).1.untallied = m.untallied := by
  induction sinks generalizing m with
  | nil => rfl
  | cons s rest ih =>
    refine (ih _).trans ?_
    split_ifs <;> rfl

/-- sinks bear on nothing but the counts of what they refuse -/
theorem sinkless_record (d : Diagnostics) (r : Record) : (d.record r).sinkless = d.sinkless.record r := by
  have metrics : (d.record r).metrics.untallied = (d.sinkless.record r).metrics := untallied_distribute r (d.metrics.count r) d.sinks
  rw [sinkless, metrics]
  rfl

end Diagnostics

namespace Gateway

variable {α : Type}

def sinkless (g : Gateway α) : Gateway α :=
  { g with diagnostics := g.diagnostics.sinkless }

/-- a gateway that is built with sinks is built without them as well -/
theorem sinkless_build {config : Config} {source : Option String} {backends : List Category} {sinks : List Sink} {g : Gateway α}
    (built : build config source backends sinks = .ok g) : build config source backends [] = .ok g.sinkless := by
  obtain ⟨valid, name, registry, routes, named, made, routed, rfl⟩ := build_eq_ok_iff.1 built
  exact build_eq_ok_iff.2 ⟨valid, name, registry, routes, named, made, routed, rfl⟩

/-- metrics that change elsewhere change alike -/
theorem sinkless_withMetrics (g : Gateway α) {f : Metrics → Metrics} (blind : ∀ m, (f m).untallied = f m.untallied) :
    (g.withMetrics f).sinkless = g.sinkless.withMetrics f := by
  simp only [sinkless, Diagnostics.sinkless, withMetrics, blind]

theorem sinkless_relay (g : Gateway α) (r : Reply) : (g.relay r).sinkless = g.sinkless.relay r := by
  unfold relay
  cases r.countedFor with
  | none => rfl
  | some tenant =>
    refine g.sinkless_withMetrics fun m => ?_
    induction r.body generalizing m with
    | nil => rfl
    | cons chunk rest ih =>
      cases chunk with
      | data bytes => exact ih _
      | broken => rfl

variable [Quantity α]

theorem sinkless_reload (g : Gateway α) (next : Config) : (g.reload next).1.sinkless = (g.sinkless.reload next).1 := by
  rw [reload_eq, reload_eq]
  have registry : g.sinkless.registry = g.registry := rfl
  rw [registry]
  cases checkTenants next.tenants g.registry.requestCost <;> rfl

theorem sinkless_reloadAll (g : Gateway α) (configs : List Config) : (g.reloadAll configs).sinkless = g.sinkless.reloadAll configs := by
  induction configs generalizing g with
  | nil => rfl
  | cons next configs ih => exact (ih _).trans (congrArg (reloadAll · configs) (g.sinkless_reload next))

end Gateway

/-! ## Gates -/

def Flight.sinkless {α W : Type} (f : Flight α W) : Flight α W :=
  { f with gateway := f.gateway.sinkless }

namespace Gate

variable {α W β γ : Type}

/-- the second gate comes to the same without sinks as the first does with them, and leaves the same flight but for them -/
def Twins (x x' : Gate α W β) : Prop :=
  ∀ f, x'.runOn f.sinkless = ((x.runOn f).1, (x.runOn f).2.sinkless)

/-- a gate that does not look at sinks -/
abbrev Blind (x : Gate α W β) : Prop := Twins x x

theorem blind_pure (b : β) : Blind (pure b : Gate α W β) := fun _ => rfl

theorem blind_throw (e : GatewayError) : Blind (throw e : Gate α W β) := fun _ => rfl

theorem blind_note (h : RequestContext → RequestContext) : Blind (note h : Gate α W Unit) := fun _ => rfl

theorem blind_advance (s : Stage) : Blind (advance s : Gate α W Unit) := fun _ => rfl

theorem blind_depart (leaves : Bool) : Blind (depart leaves : Gate α W Unit) := fun _ => rfl

theorem blind_ofExcept (r : Except GatewayError β) : Blind (ofExcept r : Gate α W β) := by
  intro f
  simp only [runOn_ofExcept]

theorem blind_unlessCancelled : Blind (unlessCancelled : Gate α W Unit) := by
  intro f
  simp only [runOn_unlessCancelled]
  rfl

theorem twins_set {f f' : Flight α W} (same : f.sinkless = f') : Twins (set f : Gate α W PUnit) (set f') := fun _ => by
  rw [runOn_set, runOn_set, same]

theorem Twins.bind {x x' : Gate α W β} {k k' : β → Gate α W γ} (first : Twins x x') (next : ∀ b, Twins (k b) (k' b)) :
    Twins (x >>= k) (x' >>= k') := by
  intro f
  rw [runOn_bind, runOn_bind, first f]
  rcases x.runOn f with ⟨e | b, f'⟩
  · rfl
  · exact next b f'

/-- a check before what comes next -/
theorem Twins.unless {c : Prop} [Decidable c] {e : GatewayError} {k k' : Unit → Gate α W β} (next : Twins (k ()) (k' ())) :
    Twins (if c then throw e >>= k else k ()) (if c then throw e >>= k' else k' ()) := by
  split_ifs
  · exact fun _ => rfl
  · exact next

/-- a gate may look at the flight, as long as it does the same where there are no sinks -/
theorem blind_get_bind {k : Flight α W → Gate α W β} (same : ∀ f, Twins (k f) (k f.sinkless)) : Blind (get >>= k) := by
  intro f
  rw [runOn_bind_ok (runOn_get _), runOn_bind_ok (runOn_get _)]
  exact same f f

theorem blind_resolveTenant : Blind (resolveTenant : Gate α W Tenant) := by
  refine blind_get_bind fun _ => ?_
  refine (blind_ofExcept _).bind fun _ => ?_
  refine (blind_note _).bind fun _ => ?_
  refine .unless ?_
  exact (blind_note _).bind fun _ => blind_pure _

theorem blind_matchRoute (tenant : Tenant) : Blind (matchRoute tenant : Gate α W Category) := by
  refine blind_get_bind fun _ => ?_
  refine (blind_note _).bind fun _ => ?_
  refine .unless ?_
  exact (blind_advance _).bind fun _ => .unless (blind_pure _)

variable [Quantity α]

theorem blind_fetchToken (o : Outside W) (audience : String) : Blind (fetchToken o audience : Gate α W AccessToken) := by
  intro f
  have after := f.gateway.sinkless_reloadAll (o.fetch f.world audience f.now).1.reloads
  simp only [runOn_fetchToken, Flight.sinkless]
  rw [← after]
  split_ifs <;> rfl

theorem blind_token (o : Outside W) (audience : String) : Blind (token o audience : Gate α W AccessToken) := by
  refine blind_get_bind fun f => ?_
  have same : f.sinkless.gateway.cache.fresh? audience f.sinkless.now = f.gateway.cache.fresh? audience f.now := rfl
  rw [same]
  cases f.gateway.cache.fresh? audience f.now with
  | none => exact blind_fetchToken o audience
  | some token =>
    refine (twins_set ?_).bind fun _ => blind_pure _
    simp only [Flight.sinkless, Gateway.sinkless_reloadAll]

theorem blind_authenticate (o : Outside W) (tenant : Tenant) (category : Category) :
    Blind (authenticate o tenant category : Gate α W Unit) := by
  refine blind_unlessCancelled.bind fun _ => ?_
  refine (blind_ofExcept _).bind fun audience => ?_
  refine (blind_token o audience).bind fun _ => ?_
  refine blind_get_bind fun _ => ?_
  refine (blind_note _).bind fun _ => ?_
  refine (blind_ofExcept _).bind fun _ => ?_
  exact (blind_note _).bind fun _ => blind_advance _

theorem blind_takeTokens (caller : Caller) (tenant : Tenant) : Blind (takeTokens caller tenant : Gate α W Unit) := by
  refine (blind_depart _).bind fun _ => ?_
  refine blind_unlessCancelled.bind fun _ => ?_
  refine blind_get_bind fun f => ?_
  have same : f.sinkless.gateway.limiter.charge (some f.sinkless.gateway.registry.current) tenant
      f.sinkless.gateway.settings.requestCost f.sinkless.now =
    f.gateway.limiter.charge (some f.gateway.registry.current) tenant f.gateway.settings.requestCost f.now := rfl
  simp only [same]
  refine (twins_set rfl).bind fun _ => .unless ?_
  refine (blind_note _).bind fun _ => ?_
  split
  · exact blind_throw _
  · exact blind_advance _

theorem blind_dispatch (o : Outside W) (caller : Caller) (category : Category) (body : List UInt8) :
    Blind (dispatch o caller category body : Gate α W Response) := by
  refine blind_unlessCancelled.bind fun _ => blind_get_bind fun f => .unless ?_
  refine (blind_depart _).bind fun _ => blind_unlessCancelled.bind fun _ => ?_
  refine (twins_set ?_).bind fun _ => (blind_ofExcept _).bind fun _ => (blind_advance _).bind fun _ => blind_pure _
  rw [Flight.sinkless, Gateway.sinkless_reloadAll]
  rfl

/-- **No gate looks at sinks.** -/
theorem blind_pass (o : Outside W) (caller : Caller) (body : List UInt8) : Blind (pass o caller body : Gate α W Response) :=
  blind_resolveTenant.bind fun tenant => (blind_matchRoute tenant).bind fun category =>
    (blind_authenticate o tenant category).bind fun _ => (blind_takeTokens caller tenant).bind fun _ =>
      blind_dispatch o caller category body

end Gate

/-! ## Requests -/

theorem Flight.sinkless_closed {α W : Type} (f : Flight α W) (r : Except GatewayError Response) :
    f.sinkless.closed r = ((f.closed r).1, (f.closed r).2.sinkless) := by
  have recorded (f : Flight α W) (outcome : Outcome) : f.sinkless.record outcome = (f.record outcome).sinkless := by
    have same := f.gateway.diagnostics.sinkless_record (.ofContext f.context outcome f.now)
    simp only [record, sinkless, Gateway.sinkless, same]
  cases r with
  | ok answer =>
    let moves := f.moves ++ [(Stage.completed, (f.context.stage.advance .completed).2)]
    exact congrArg (Prod.mk _) (recorded { f with context := f.context.advance .completed, moves } (.success answer.status))
  | error e => exact congrArg (Prod.mk _) (recorded { f with context := f.context.fail e.code } (.error e.code))

namespace Passage

variable {α W : Type}

/-- the same request at a gateway without sinks -/
def sinkless (p : Passage α W) : Passage α W :=
  { p with gateway := p.gateway.sinkless }

variable [Quantity α] (p : Passage α W)

theorem sinkless_ended : p.sinkless.ended = (p.ended.1, p.ended.2.sinkless) :=
  Gate.blind_pass p.outside p.caller p.request.body p.received

/-- **A request is handled alike**, whatever sinks there are, -/
theorem sinkless_handled : p.sinkless.handled = (p.handled.1, p.handled.2.sinkless) := by
  rw [handled_eq, sinkless_ended, Flight.sinkless_closed, ← handled_eq]

theorem sinkless_told : p.sinkless.handled.1 = p.handled.1 := by
  rw [sinkless_handled]

/-- and the same is recorded of it. -/
theorem sinkless_record : p.sinkless.record = p.record := by
  rw [record, sinkless_ended, record]
  cases p.ended.1 <;> rfl

end Passage

def Served.sinkless {α W : Type} (s : Served α W) : Served α W :=
  { s with gateway := s.gateway.sinkless }

namespace Gateway

variable {α W : Type} [Quantity α]

theorem sinkless_handle (o : Outside W) (g : Gateway α) (world : W) (now : ℕ) (requestId : String) (caller : Caller) (r : Inbound) :
    g.sinkless.handle o world now requestId caller r =
      ((g.handle o world now requestId caller r).1, (g.handle o world now requestId caller r).2.sinkless) :=
  Passage.sinkless_handled ⟨o, g, world, now, requestId, caller, r⟩

theorem sinkless_proxy (o : Outside W) (g : Gateway α) (world : W) (now : ℕ) (requestId : String) (r : Request) :
    g.sinkless.proxy o world now requestId r = (g.proxy o world now requestId r).sinkless := by
  have inbound : g.sinkless.inbound r = g.inbound r := rfl
  have closing : g.sinkless.closing = g.closing := rfl
  unfold proxy
  rw [inbound, closing]
  cases g.inbound r with
  | error e => rfl
  | ok inbound =>
    simp only [sinkless_handle]
    have shut (f : Flight α W) : (if f.sinkless.cancelled then f.sinkless.gateway.shutDown else f.sinkless.gateway) =
        (if f.cancelled then f.gateway.shutDown else f.gateway).sinkless := by
      have left : f.sinkless.cancelled = f.cancelled := rfl
      rw [left]
      split_ifs <;> rfl
    rw [shut]
    generalize (if (g.handle o world now requestId { gone := g.closing } inbound).2.cancelled then _ else _) = last
    cases (g.handle o world now requestId { gone := g.closing } inbound).1 with
    | error e => rfl
    | ok reply =>
      dsimp only
      split_ifs
      · rfl
      · rw [← sinkless_relay]
        rfl

/-- **A request is answered alike**, whatever sinks there are, unless it is for the metrics. -/
theorem sinkless_serve (o : Outside W) (g : Gateway α) (world : W) (now : ℕ) (requestId : String) {r : Request}
    (other : OperatorPage.ofPath? r.uri.path ≠ some .metrics) :
    g.sinkless.serve o world now requestId r = (g.serve o world now requestId r).sinkless := by
  cases own : OperatorPage.ofPath? r.uri.path with
  | none =>
    simp only [serve, own, sinkless_proxy]
    split_ifs <;> rfl
  | some page =>
    have pages : g.sinkless.page page = g.page page := by
      cases page with
      | metrics => exact absurd own other
      | health | readiness => rfl
    rw [serve_page o _ world now requestId own, serve_page o _ world now requestId own, pages]
    rfl

end Gateway

end TenantGateway
