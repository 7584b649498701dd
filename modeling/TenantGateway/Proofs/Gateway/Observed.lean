/-
A policy does not bear on what becomes of a request.

Two flights are alike (`Flight.Alike`) if their gateways are and the same is known of their requests in bare form. Gates are alike
(`Gate.Alike`) if they leave alike what was alike, and come to the same; gates made of such gates are (`Gate.alike_bind`), and so
is each of the gates of a request. The configurations that are loaded while a token is fetched or a backend asked may differ in
policies as well (`Outside.SameButPolicies`). `Gateway.Alike.handle` and `Gateway.Alike.serve` say what this comes to for a
request.
-/
import TenantGateway.Proofs.Gateway.Policies

namespace TenantGateway

/-! ## Calls that load configurations -/

namespace Call

/-- a call while which configurations without policies and display names are loaded -/
def bare {β : Type} (c : Call β) : Call β :=
  { c with reload := c.reload.map Config.bare, laterReloads := c.laterReloads.map Config.bare }

theorem reloads_bare {β : Type} (c : Call β) : c.bare.reloads = c.reloads.map Config.bare := by
  cases loaded : c.reload <;> simp [reloads, bare, loaded]

/-- such calls come to the same, and load configurations that are the same in bare form -/
theorem alike_of_bare {β : Type} {c c' : Call β} (same : c.bare = c'.bare) (limit : Option ℕ) :
    c.ending limit = c'.ending limit ∧ (∀ elapsed, c.isCancelledBy elapsed = c'.isCancelledBy elapsed) ∧
      c.reloads.map Config.bare = c'.reloads.map Config.bare := by
  have ending (c : Call β) : c.bare.ending limit = c.ending limit := rfl
  have cancelled (c : Call β) (elapsed : ℕ) : c.bare.isCancelledBy elapsed = c.isCancelledBy elapsed := rfl
  refine ⟨?_, fun elapsed => ?_, ?_⟩
  · rw [← ending, same, ending]
  · rw [← cancelled, same, cancelled]
  · rw [← reloads_bare, same, reloads_bare]

end Call

/-- two worlds that differ in the policies and the display names of the configurations that are loaded, and in nothing else -/
structure Outside.SameButPolicies {W : Type} (o o' : Outside W) : Prop where
  fetched : ∀ w audience now, (o.fetch w audience now).1.bare = (o'.fetch w audience now).1.bare
  fetchedWorld : ∀ w audience now, (o.fetch w audience now).2 = (o'.fetch w audience now).2
  forwarded : ∀ w c r, (o.forward w c r).1.bare = (o'.forward w c r).1.bare
  forwardedWorld : ∀ w c r, (o.forward w c r).2 = (o'.forward w c r).2
  meanwhile : ∀ w, (o.meanwhile w).map Config.bare = (o'.meanwhile w).map Config.bare

theorem Outside.SameButPolicies.refl {W : Type} (o : Outside W) : o.SameButPolicies o :=
  ⟨fun _ _ _ => rfl, fun _ _ _ => rfl, fun _ _ _ => rfl, fun _ _ _ => rfl, fun _ => rfl⟩

/-! ## Flights -/

/-- the same flight, but for the policies and display names of tenants and for tags -/
structure Flight.Alike {α W : Type} (f f' : Flight α W) : Prop where
  gateway : f.gateway.Alike f'.gateway
  world : f.world = f'.world
  now : f.now = f'.now
  context : f.context.bare = f'.context.bare
  cancelled : f.cancelled = f'.cancelled
  forwarded : f.forwarded = f'.forwarded
  moves : f.moves = f'.moves

theorem Flight.Alike.eq {α W : Type} {f f' : Flight α W} (alike : f.Alike f') :
    f' = { f with gateway := f'.gateway, context := f'.context } := by
  obtain ⟨-, world, now, -, cancelled, forwarded, moves⟩ := alike
  rw [world, now, cancelled, forwarded, moves]

namespace RequestContext

variable {c c' : RequestContext}

/-- what is known of both requests besides their tenants -/
theorem eq_of_bare (same : c.bare = c'.bare) :
    c.requestId = c'.requestId ∧ c.tenantId = c'.tenantId ∧ c.method = c'.method ∧ c.path = c'.path ∧
      c.headers = c'.headers ∧ c.stage = c'.stage := by
  simp only [bare, RequestContext.mk.injEq] at same
  tauto

end RequestContext

namespace Gate

variable {α W β γ : Type} {o o' : Outside W}

/-- from flights that are alike two gates lead to flights that are alike, and to failures alike or values related by `R` -/
def Alike (R : β → β → Prop) (x y : Gate α W β) : Prop :=
  ∀ f f' : Flight α W, f.Alike f' →
    (x.runOn f).2.Alike (y.runOn f').2 ∧ Except.Both R (x.runOn f).1 (y.runOn f').1

theorem alike_bind {R : β → β → Prop} {S : γ → γ → Prop} {x y : Gate α W β} {k l : β → Gate α W γ} (first : Alike R x y)
    (next : ∀ b b', R b b' → Alike S (k b) (l b')) : Alike S (x >>= k) (y >>= l) := by
  intro f f' alike
  obtain ⟨flights, results⟩ := first f f' alike
  rw [runOn_bind, runOn_bind]
  generalize x.runOn f = left at flights results ⊢
  generalize y.runOn f' = right at flights results ⊢
  obtain ⟨r, g⟩ := left
  obtain ⟨r', g'⟩ := right
  rcases results.cases with ⟨b, b', rfl, rfl, same⟩ | ⟨e, rfl, rfl⟩
  · exact next b b' same g g' flights
  · exact ⟨flights, rfl⟩

/-- where a gate lets pass with nothing or the same, the rest may take it for the same -/
theorem alike_seq {S : γ → γ → Prop} {x y : Gate α W β} {k l : β → Gate α W γ} (first : Alike Eq x y)
    (next : ∀ b, Alike S (k b) (l b)) : Alike S (x >>= k) (y >>= l) := by
  refine alike_bind first ?_
  intro b b' same
  subst same
  exact next b

/-- what a gate reads of a flight differs in the gateway and in what is known of the request -/
theorem alike_get {S : γ → γ → Prop} {k l : Flight α W → Gate α W γ}
    (next : ∀ (f : Flight α W) (g : Gateway α) (c : RequestContext), f.gateway.Alike g → f.context.bare = c.bare →
      Alike S (k f) (l { f with gateway := g, context := c })) : Alike S (get >>= k) (get >>= l) := by
  intro f f' alike
  rw [runOn_bind_ok (runOn_get f), runOn_bind_ok (runOn_get f')]
  have both := next f f'.gateway f'.context alike.gateway alike.context f f' alike
  rwa [← alike.eq] at both

theorem alike_pure {R : β → β → Prop} {b b' : β} (same : R b b') : Alike R (pure b : Gate α W β) (pure b') :=
  fun _ _ alike => ⟨alike, same⟩

theorem alike_throw {R : β → β → Prop} (e : GatewayError) : Alike R (throw e : Gate α W β) (throw e) :=
  fun _ _ alike => ⟨alike, rfl⟩

theorem alike_set {f f' : Flight α W} (alike : f.Alike f') : Alike Eq (set f : Gate α W PUnit) (set f') :=
  fun _ _ _ => ⟨alike, rfl⟩

theorem alike_ofExcept {R : β → β → Prop} {r r' : Except GatewayError β} (same : Except.Both R r r') :
    Alike R (ofExcept r : Gate α W β) (ofExcept r') := by
  intro f f' alike
  rw [runOn_ofExcept, runOn_ofExcept]
  exact ⟨alike, same⟩

/-- what is noted is the same in bare form -/
theorem alike_note {h h' : RequestContext → RequestContext} (same : ∀ c c', c.bare = c'.bare → (h c).bare = (h' c').bare) :
    Alike Eq (note h : Gate α W Unit) (note h') :=
  fun _ _ alike => ⟨{ alike with context := same _ _ alike.context }, rfl⟩

theorem alike_noted {h : RequestContext → RequestContext} (same : ∀ c, (h c).bare = h c.bare) :
    Alike Eq (note h : Gate α W Unit) (note h) :=
  alike_note fun c c' context => by rw [same, same, context]

theorem alike_advance (stage : Stage) : Alike Eq (advance stage : Gate α W Unit) (advance stage) := by
  intro f f' alike
  obtain ⟨-, -, -, -, -, stages⟩ := RequestContext.eq_of_bare alike.context
  have context : (f.context.advance stage).bare = (f'.context.advance stage).bare :=
    congrArg (·.advance stage) alike.context
  refine ⟨{ alike with context, moves := ?_ }, rfl⟩
  simp only [runOn_advance, alike.moves, stages]

theorem alike_depart (leaves : Bool) : Alike Eq (depart leaves : Gate α W Unit) (depart leaves) :=
  fun _ _ alike => ⟨{ alike with cancelled := congrArg (· || leaves) alike.cancelled }, rfl⟩

theorem alike_unlessCancelled : Alike Eq (unlessCancelled : Gate α W Unit) unlessCancelled := by
  intro f f' alike
  rw [runOn_unlessCancelled, runOn_unlessCancelled, alike.cancelled]
  exact ⟨alike, Except.both_of_eq rfl⟩

/-- a failure that both ask for under the same condition -/
theorem alike_guard {S : γ → γ → Prop} (c : Prop) [Decidable c] (e : GatewayError) {k l : Unit → Gate α W γ}
    (next : ¬ c → Alike S (k ()) (l ())) :
    Alike S (if c then throw e >>= k else k ()) (if c then throw e >>= l else l ()) := by
  by_cases holds : c
  · rw [if_pos holds, if_pos holds]
    exact fun _ _ alike => ⟨alike, rfl⟩
  · rw [if_neg holds, if_neg holds]
    exact next holds

/-! ## The gates of a request -/

/-- a tenant, as far as its requests are concerned -/
abbrev SameBare (t t' : Tenant) : Prop := t.bare = t'.bare

theorem alike_resolveTenant : Alike SameBare (resolveTenant : Gate α W Tenant) resolveTenant := by
  unfold resolveTenant
  refine alike_get ?_
  intro f g c gateway context
  obtain ⟨-, tenantId, -⟩ := RequestContext.eq_of_bare context
  rw [tenantId]
  refine alike_bind (alike_ofExcept (Registry.resolve_alike gateway.registry _)) ?_
  intro t t' same
  obtain ⟨id, enabled, -⟩ := Tenant.bare_eq_iff.1 same
  rw [id, enabled]
  refine alike_seq (alike_note fun c c' context => ?_) fun _ => ?_
  · have named (c : RequestContext) (t : Tenant) :
        ({ c with tenant := some t } : RequestContext).bare = { c.bare with tenant := some t.bare } := rfl
    rw [named, named, context, same]
  refine alike_guard _ _ fun _ => ?_
  refine alike_seq (alike_note fun c c' context => ?_) fun _ => alike_pure same
  have untagged (c : RequestContext) (p : TenantPolicy) : (c.tagPolicy p).bare = c.bare := by
    rw [c.tagPolicy_eq]
    rfl
  rw [untagged, untagged, context]

theorem alike_matchRoute {t t' : Tenant} (same : t.bare = t'.bare) :
    Alike Eq (matchRoute t : Gate α W Category) (matchRoute t') := by
  obtain ⟨id, -, backends, -⟩ := Tenant.bare_eq_iff.1 same
  have allowed (c : Category) : t.backendEnabled c = t'.backendEnabled c := by
    rw [Tenant.backendEnabled, Tenant.backendEnabled, backends]
  unfold matchRoute
  refine alike_get ?_
  intro f g c gateway context
  obtain ⟨-, -, -, path, -⟩ := RequestContext.eq_of_bare context
  obtain ⟨-, routes, -⟩ := Settings.mk.inj gateway.settings
  have bare : f.context.barePath = c.barePath := by
    rw [RequestContext.barePath, RequestContext.barePath, path]
  simp only [routes, path, bare, id, allowed]
  refine alike_seq (alike_noted fun _ => rfl) fun _ => ?_
  refine alike_guard _ _ fun _ => ?_
  refine alike_seq (alike_advance _) fun _ => ?_
  exact alike_guard _ _ fun _ => alike_pure rfl

variable [Quantity α]

/-- the source is asked the same -/
theorem alike_fetchToken (same : o.SameButPolicies o') (audience : String) :
    Alike Eq (fetchToken o audience : Gate α W AccessToken) (fetchToken o' audience) := by
  unfold fetchToken
  refine alike_get ?_
  intro f g c gateway context
  obtain ⟨ending, cancelled, reloads⟩ := Call.alike_of_bare (same.fetched f.world audience f.now) none
  -- the token is kept by the gateway that the reloads leave
  have loaded := gateway.reloadAll reloads
  simp only [ending, cancelled, same.fetchedWorld]
  generalize f.gateway.reloadAll _ = left at loaded ⊢
  generalize g.reloadAll _ = right at loaded ⊢
  cases ((o'.fetch f.world audience f.now).1.ending none).1 with
  | answered answer =>
    dsimp only
    rw [loaded.cache]
    refine alike_seq (alike_set ⟨{ loaded with cache := rfl }, rfl, rfl, context, rfl, rfl, rfl⟩) fun _ => ?_
    exact alike_ofExcept (Except.both_of_eq rfl)
  | cancelled | timedOut =>
    exact alike_seq (alike_set ⟨loaded, rfl, rfl, context, rfl, rfl, rfl⟩) fun _ => alike_throw _

theorem alike_token (same : o.SameButPolicies o') (audience : String) :
    Alike Eq (token o audience : Gate α W AccessToken) (token o' audience) := by
  unfold token
  refine alike_get ?_
  intro f g c gateway context
  rw [gateway.cache]
  cases g.cache.fresh? audience f.now with
  | none => exact alike_fetchToken same audience
  | some token =>
    have loaded := gateway.reloadAll (same.meanwhile f.world)
    exact alike_seq (alike_set ⟨loaded, rfl, rfl, context, rfl, rfl, rfl⟩) fun _ => alike_pure rfl

theorem alike_authenticate (same : o.SameButPolicies o') {t t' : Tenant} (tenants : t.bare = t'.bare) (c : Category) :
    Alike Eq (authenticate o t c : Gate α W Unit) (authenticate o' t' c) := by
  obtain ⟨id, -⟩ := Tenant.bare_eq_iff.1 tenants
  have authorize (h : Headers) (token : AccessToken) : h.authorize token t = h.authorize token t' := by
    rw [Headers.authorize_eq, Headers.authorize_eq, id]
  unfold authenticate
  refine alike_seq alike_unlessCancelled fun _ => ?_
  refine alike_seq (alike_ofExcept (Except.both_of_eq rfl)) fun audience => ?_
  refine alike_seq (alike_token same audience) fun token => ?_
  refine alike_get ?_
  intro f g c gateway context
  obtain ⟨-, -, -, -, headers, -⟩ := RequestContext.eq_of_bare context
  rw [authorize, headers]
  refine alike_seq (alike_noted fun _ => rfl) fun _ => ?_
  refine alike_seq (alike_ofExcept (Except.both_of_eq rfl)) fun _ => ?_
  exact alike_seq (alike_noted fun _ => rfl) fun _ => alike_advance _

theorem alike_takeTokens (caller : Caller) {t t' : Tenant} (tenants : t.bare = t'.bare) :
    Alike Eq (takeTokens caller t : Gate α W Unit) (takeTokens caller t') := by
  obtain ⟨id, -⟩ := Tenant.bare_eq_iff.1 tenants
  unfold takeTokens
  refine alike_seq (alike_depart _) fun _ => ?_
  refine alike_seq alike_unlessCancelled fun _ => ?_
  refine alike_get ?_
  intro f g c gateway context
  have charge : f.gateway.limiter.charge (some f.gateway.registry.current) t f.gateway.settings.requestCost f.now =
      g.limiter.charge (some g.registry.current) t' g.settings.requestCost f.now := by
    rw [gateway.limiter, gateway.requestCost]
    exact g.limiter.charge_alike (Registry.bare_eq_iff.1 gateway.registry).1 tenants _ _
  -- first the charge as a whole, since the limiter in it is another in name
  simp only [charge]
  simp only [id, gateway.limiter, Registry.revocation_alike gateway.registry]
  refine alike_seq (alike_set ⟨{ gateway with limiter := rfl }, rfl, rfl, context, rfl, rfl, rfl⟩) fun _ => ?_
  refine alike_guard _ _ fun _ => ?_
  refine alike_seq (alike_noted fun _ => rfl) fun _ => ?_
  split
  · exact alike_throw _
  · exact alike_advance _

/-- the backend is asked the same -/
theorem alike_dispatch (same : o.SameButPolicies o') (caller : Caller) (c : Category) (body : List UInt8) :
    Alike Eq (dispatch o caller c body : Gate α W Response) (dispatch o' caller c body) := by
  unfold dispatch
  refine alike_seq alike_unlessCancelled fun _ => ?_
  refine alike_get ?_
  intro f g context gateway contexts
  obtain ⟨config, -, -, backends⟩ := Settings.mk.inj gateway.settings
  have timeoutMs : f.gateway.settings.config.backends.timeoutMs = g.settings.config.backends.timeoutMs :=
    congrArg BackendsSection.timeoutMs (Config.mk.inj config).2.2.1
  have timeout : f.gateway.settings.timeout = g.settings.timeout := by
    rw [Settings.timeout, Settings.timeout, timeoutMs]
  have request :
      ({ method := f.context.method
         path := f.context.path
         headers := f.context.headers.insertIf .requestId (HeaderValue.ofText? f.context.requestId)
         body } : ForwardRequest) =
        { method := context.method
          path := context.path
          headers := context.headers.insertIf .requestId (HeaderValue.ofText? context.requestId)
          body } := by
    obtain ⟨requestId, -, method, path, headers, -⟩ := RequestContext.eq_of_bare contexts
    rw [requestId, method, path, headers]
  simp only [backends, timeoutMs, timeout, request]
  refine alike_guard _ _ fun _ => ?_
  refine alike_seq (alike_depart _) fun _ => ?_
  refine alike_seq alike_unlessCancelled fun _ => ?_
  generalize ({ method := _, path := _, headers := _, body } : ForwardRequest) = request
  obtain ⟨ending, cancelled, reloads⟩ := Call.alike_of_bare (same.forwarded f.world c request) (some g.settings.timeout)
  have loaded := gateway.reloadAll reloads
  simp only [ending, cancelled, same.forwardedWorld]
  -- the headers have gone with the request
  have emptied : ({ f.context with headers := .empty } : RequestContext).bare = { context with headers := .empty }.bare :=
    congrArg (fun c : RequestContext => { c with headers := .empty }) contexts
  refine alike_seq (alike_set ⟨loaded, rfl, rfl, emptied, rfl, rfl, rfl⟩) fun _ => ?_
  refine alike_seq (alike_ofExcept (Except.both_of_eq rfl)) fun answer => ?_
  exact alike_seq (alike_advance _) fun _ => alike_pure rfl

/-- **A request passes the gates alike**, whatever is observed of it. -/
theorem alike_pass (same : o.SameButPolicies o') (caller : Caller) (body : List UInt8) :
    Alike Eq (pass o caller body : Gate α W Response) (pass o' caller body) := by
  unfold pass
  refine alike_bind alike_resolveTenant ?_
  intro t t' tenants
  refine alike_seq (alike_matchRoute tenants) fun c => ?_
  refine alike_seq (alike_authenticate same tenants c) fun _ => ?_
  exact alike_seq (alike_takeTokens caller tenants) fun _ => alike_dispatch same caller c body

end Gate

/-! ## Whole requests -/

/-- a reply without word of whether its bytes are counted -/
def Reply.bare (r : Reply) : Reply :=
  { r with countedFor := none }

/-- the caller is not told of it -/
theorem Reply.response_alike {r r' : Reply} (same : r.bare = r'.bare) : r.response = r'.response := by
  have bare (r : Reply) : r.bare.response = r.response := rfl
  rw [← bare, same, bare]

namespace RequestContext

variable {c c' : RequestContext}

theorem reply_alike (same : c.bare = c'.bare) (answer : Response) : (c.reply answer).bare = (c'.reply answer).bare := by
  have bare (c : RequestContext) : (c.reply answer).bare = (c.bare.reply answer).bare := rfl
  rw [bare, same, ← bare]

theorem errorReply_alike (same : c.bare = c'.bare) (e : GatewayError) : c.errorReply e = c'.errorReply e := by
  have bare (c : RequestContext) : c.errorReply e = c.bare.errorReply e := rfl
  rw [bare, same, ← bare]

end RequestContext

namespace Flight

variable {α W : Type} {f f' : Flight α W}

theorem Alike.record (alike : f.Alike f') (outcome : Outcome) : (f.record outcome).Alike (f'.record outcome) := by
  have records : (Record.ofContext f.context outcome f.now).bare = (Record.ofContext f'.context outcome f'.now).bare := by
    rw [Record.bare_ofContext, alike.context, alike.now, ← Record.bare_ofContext]
  exact { alike with gateway := { alike.gateway with diagnostics := alike.gateway.diagnostics.record records } }

theorem Alike.complete (alike : f.Alike f') (answer : Response) : (f.complete answer).Alike (f'.complete answer) := by
  obtain ⟨flight, -⟩ := Gate.alike_advance .completed f f' alike
  exact flight.record (.success answer.status)

theorem Alike.fail (alike : f.Alike f') (e : GatewayError) : (f.fail e).Alike (f'.fail e) := by
  have failed : Flight.Alike { f with context := f.context.fail e.code } { f' with context := f'.context.fail e.code } :=
    { alike with context := congrArg (·.fail e.code) alike.context }
  exact failed.record (.error e.code)

end Flight

namespace Gateway

variable {α W : Type} {g g' : Gateway α}

theorem Alike.receive (alike : Alike g g') (world : W) (now : ℕ) (requestId : String) (caller : Caller) (r : Inbound) :
    (g.receive world now requestId caller r).Alike (g'.receive world now requestId caller r) :=
  ⟨alike, rfl, rfl, rfl, rfl, rfl, rfl⟩

/-- a tenant's request is read in the same way -/
theorem Alike.inbound (alike : Alike g g') (r : Request) : g.inbound r = g'.inbound r := by
  obtain ⟨config, -⟩ := Settings.mk.inj alike.settings
  have limits : g.settings.config.gateway = g'.settings.config.gateway := (Config.mk.inj config).2.1
  simp only [Gateway.inbound, limits]

/-- the pages for operators are the same, but for the families that policies bear on -/
theorem Alike.page (alike : Alike g g') (page : OperatorPage) :
    (g.withMetrics Metrics.bare).page page = (g'.withMetrics Metrics.bare).page page := by
  have metrics := alike.diagnostics.metrics
  have totals (g : Gateway α) : (g.withMetrics Metrics.bare).totals = g.totals := rfl
  have draining (g : Gateway α) : (g.withMetrics Metrics.bare).isDraining = g.diagnostics.metrics.bare.draining := rfl
  have shown (g : Gateway α) : (g.withMetrics Metrics.bare).diagnostics.metrics = g.diagnostics.metrics.bare := rfl
  cases page with
  | health => rfl
  | readiness => simp only [Gateway.page, draining, metrics]
  | metrics => simp only [Gateway.page, shown, metrics, totals, alike.totals]

variable [Quantity α] {o o' : Outside W}

/-- **A request is handled alike**: what its caller is told is the same, and what it leaves is alike. -/
theorem Alike.handle (alike : Alike g g') (same : o.SameButPolicies o') (world : W) (now : ℕ) (requestId : String)
    (caller : Caller) (r : Inbound) :
    (g.handle o world now requestId caller r).2.Alike (g'.handle o' world now requestId caller r).2 ∧
      Except.Both (fun reply reply' => reply.bare = reply'.bare) (g.handle o world now requestId caller r).1
        (g'.handle o' world now requestId caller r).1 := by
  obtain ⟨flights, results⟩ := Gate.alike_pass same caller r.body _ _ (alike.receive world now requestId caller r)
  rw [handle_eq, handle_eq]
  generalize (Gate.pass o caller r.body).runOn (g.receive world now requestId caller r) = left at flights results ⊢
  generalize (Gate.pass o' caller r.body).runOn (g'.receive world now requestId caller r) = right at flights results ⊢
  obtain ⟨result, f⟩ := left
  obtain ⟨result', f'⟩ := right
  rcases results.cases with ⟨answer, _, rfl, rfl, rfl⟩ | ⟨e, rfl, rfl⟩
  · exact ⟨flights.complete answer, RequestContext.reply_alike flights.context answer⟩
  · exact ⟨flights.fail e, RequestContext.errorReply_alike flights.context e⟩

end Gateway

/-- the same was answered and forwarded, and what is left is alike -/
structure Served.Alike {α W : Type} (s s' : Served α W) : Prop where
  response : s.response = s'.response
  gateway : s.gateway.Alike s'.gateway
  world : s.world = s'.world
  forwarded : s.forwarded = s'.forwarded

/-- a caller who asks for no body is given none -/
theorem Served.Alike.headOnly {α W : Type} {s s' : Served α W} (alike : s.Alike s') (method : String) :
    Served.Alike (if method = Gateway.headMethod then { s with response := s.response.headOnly } else s)
      (if method = Gateway.headMethod then { s' with response := s'.response.headOnly } else s') := by
  split_ifs
  · exact { alike with response := congrArg Response.headOnly alike.response }
  · exact alike

namespace Gateway

variable {α W : Type} [Quantity α] {g g' : Gateway α} {o o' : Outside W}

theorem Alike.proxy (alike : Alike g g') (same : o.SameButPolicies o') (world : W) (now : ℕ) (requestId : String)
    (r : Request) : (g.proxy o world now requestId r).Alike (g'.proxy o' world now requestId r) := by
  unfold Gateway.proxy
  rw [alike.inbound, alike.closing]
  cases g'.inbound r with
  | error e => exact ⟨rfl, alike, rfl, rfl⟩
  | ok inbound =>
    obtain ⟨flights, results⟩ := alike.handle same world now requestId { gone := g'.closing } inbound
    dsimp only
    generalize g.handle o world now requestId { gone := g'.closing } inbound = handled at flights results ⊢
    generalize g'.handle o' world now requestId { gone := g'.closing } inbound = handled' at flights results ⊢
    obtain ⟨result, f⟩ := handled
    obtain ⟨result', f'⟩ := handled'
    have left : (if f.cancelled then f.gateway.shutDown else f.gateway).Alike
        (if f'.cancelled then f'.gateway.shutDown else f'.gateway) := by
      rw [flights.cancelled]
      split_ifs
      · exact flights.gateway.shutDown
      · exact flights.gateway
    generalize (if f.cancelled then f.gateway.shutDown else f.gateway) = last at left ⊢
    generalize (if f'.cancelled then f'.gateway.shutDown else f'.gateway) = last' at left ⊢
    rcases results.cases with ⟨reply, reply', rfl, rfl, replies⟩ | ⟨e, rfl, rfl⟩
    · refine ⟨Reply.response_alike replies, ?_, flights.world, flights.forwarded⟩
      dsimp only
      split_ifs
      · exact left
      · exact left.relay reply reply'
    · exact ⟨rfl, left, flights.world, flights.forwarded⟩

/-- a page for operators changes nothing -/
theorem serve_page (o : Outside W) (g : Gateway α) (world : W) (now : ℕ) (requestId : String) {r : Request}
    {page : OperatorPage} (own : OperatorPage.ofPath? r.uri.path = some page) :
    g.serve o world now requestId r =
      let answer := if onlyReads r.method then g.page page else .readOnly
      { response := if r.method = headMethod then answer.headOnly else answer, gateway := g, world, now } := by
  unfold Gateway.serve
  rw [own]
  dsimp only
  split_ifs <;> rfl

/-- **A request is answered alike**, unless it is for the metrics page, which shows what was observed. -/
theorem Alike.serve (alike : Alike g g') (same : o.SameButPolicies o') (world : W) (now : ℕ) (requestId : String)
    {r : Request} (other : OperatorPage.ofPath? r.uri.path ≠ some .metrics) :
    (g.serve o world now requestId r).Alike (g'.serve o' world now requestId r) := by
  cases own : OperatorPage.ofPath? r.uri.path with
  | none =>
    unfold Gateway.serve
    rw [own]
    exact (alike.proxy same world now requestId r).headOnly r.method
  | some page =>
    have pages : g.page page = g'.page page := by
      cases page with
      | metrics => exact absurd own other
      | health => rfl
      | readiness => exact alike.page .readiness
    rw [serve_page o g world now requestId own, serve_page o' g' world now requestId own, pages]
    exact ⟨rfl, alike, rfl, rfl⟩

end Gateway

end TenantGateway
