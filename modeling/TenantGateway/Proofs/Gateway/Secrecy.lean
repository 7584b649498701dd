/-
What a provider says never reaches a caller.

Two worlds are compared that differ in the failures of the token source, in whatever way, and in the texts of the backends'
failures (`Outside.SameButErrors`). A gate agrees with another if it leaves the same flight and comes to the same result, but for
such texts (`Gate.Agree`); gates made of agreeing gates agree (`agree_bind`), and only two of them ask the world outside
(`agree_fetchToken`, `agree_dispatch`). `provider_detail_hidden` is that for every run of a gateway: its state is the same at the
end and every response on the way is. Nothing is said of the logs, which do tell the texts.
-/
import TenantGateway.Proofs.Gateway.Backends
import TenantGateway.Proofs.Gateway.Changes
import TenantGateway.Proofs.Gateway.ForwardedHeaders

namespace TenantGateway

/-! ## What is hidden -/

/-- a failure without what a provider said of it -/
def GatewayError.veiled : GatewayError → GatewayError
  | .credentialUnavailable _ => .credentialUnavailable ""
  | .backendUnavailable _ => .backendUnavailable ""
  | e => e

theorem GatewayError.code_veiled (e : GatewayError) : e.veiled.code = e.code := by
  cases e <;> rfl

/-- a reply tells nothing else of a failure -/
theorem ErrorReply.response_veiled (r : ErrorReply) : { r with error := r.error.veiled }.response = r.response := by
  obtain ⟨error, tenant, requestId, remaining⟩ := r
  cases error <;> rfl

/-- a result without what a provider said of a failure -/
def veil {β : Type} (r : Except GatewayError β) : Except GatewayError β :=
  r.mapError GatewayError.veiled

theorem veil_eq {β : Type} {r r' : Except GatewayError β} (same : veil r = veil r') :
    (∃ b, r = .ok b ∧ r' = .ok b) ∨ ∃ e e', r = .error e ∧ r' = .error e' ∧ e.veiled = e'.veiled := by
  cases r with
  | ok b =>
    cases r' with
    | ok b' => exact .inl ⟨b, rfl, congrArg _ (Except.ok.inj same).symm⟩
    | error e' => cases same
  | error e =>
    cases r' with
    | ok b' => cases same
    | error e' => exact .inr ⟨e, e', rfl, rfl, Except.error.inj same⟩

/-! ## Calls that differ in their errors -/

namespace Call

/-- a call without the failure that it comes to -/
def withoutError {β : Type} (c : Call (Except GatewayError β)) : Call (Option β) :=
  { answer := c.answer.toOption
    delay := c.delay
    cancelAfter := c.cancelAfter
    reload := c.reload
    laterReloads := c.laterReloads }

/-- what two such calls do besides is the same -/
theorem alike {β : Type} {c c' : Call (Except GatewayError β)} (same : c.withoutError = c'.withoutError) :
    c.answer.toOption = c'.answer.toOption ∧ c.isAbandoned = c'.isAbandoned ∧ c.span = c'.span ∧
      c.reloads = c'.reloads ∧ ∀ elapsed, c.isCancelledBy elapsed = c'.isCancelledBy elapsed := by
  obtain ⟨answer, delay, cancelAfter, reload, laterReloads⟩ := c
  obtain ⟨answer', delay', cancelAfter', reload', laterReloads'⟩ := c'
  obtain ⟨answers, rfl, rfl, rfl, rfl⟩ := Call.mk.inj same
  exact ⟨answers, rfl, rfl, rfl, fun _ => rfl⟩

theorem ending_alike {c c' : Call (Except GatewayError Response)} (same : c.withoutError = c'.withoutError)
    (veiled : veil c.answer = veil c'.answer) (limit : Option ℕ) (timeoutMs : ℕ) :
    (c.ending limit).2 = (c'.ending limit).2 ∧
      veil ((c.ending limit).1.response timeoutMs) = veil ((c'.ending limit).1.response timeoutMs) := by
  obtain ⟨answer, delay, cancelAfter, reload, laterReloads⟩ := c
  obtain ⟨answer', delay', cancelAfter', reload', laterReloads'⟩ := c'
  obtain ⟨-, rfl, rfl, rfl, rfl⟩ := Call.mk.inj same
  unfold ending
  dsimp only
  split_ifs
  · exact ⟨rfl, veiled⟩
  · exact ⟨rfl, rfl⟩
  · exact ⟨rfl, veiled⟩
  · exact ⟨rfl, rfl⟩

end Call

/-- the cache keeps count of failures, and reports each as an unavailable credential -/
theorem CredentialCache.settle_alike (c : CredentialCache) (audience : String) (now : ℕ) {answer answer' : FetchAnswer}
    (same : answer.toOption = answer'.toOption) :
    (c.settle audience now answer).1 = (c.settle audience now answer').1 ∧
      veil (c.settle audience now answer).2 = veil (c.settle audience now answer').2 := by
  cases answer with
  | ok token =>
    cases answer' with
    | ok token' =>
      obtain rfl := Option.some.inj same
      exact ⟨rfl, rfl⟩
    | error e' => cases same
  | error e =>
    cases answer' with
    | ok token' => cases same
    | error e' =>
      simp only [settle, take, Except.map, unavailable_eq]
      split <;> exact ⟨rfl, rfl⟩

/-- two worlds that differ in the errors of their calls and in nothing else -/
structure Outside.SameButErrors {W : Type} (o o' : Outside W) : Prop where
  fetched : ∀ w audience now, (o.fetch w audience now).1.withoutError = (o'.fetch w audience now).1.withoutError
  fetchedWorld : ∀ w audience now, (o.fetch w audience now).2 = (o'.fetch w audience now).2
  forwarded : ∀ w c r, (o.forward w c r).1.withoutError = (o'.forward w c r).1.withoutError
  forwardedWorld : ∀ w c r, (o.forward w c r).2 = (o'.forward w c r).2
  meanwhile : ∀ w, o.meanwhile w = o'.meanwhile w

/-- of backends over HTTP the texts of the errors differ, and no more -/
theorem Outside.SameButErrors.veil_forward {W : Type} {o o' : Outside W} (same : o.SameButErrors o') {backends : List Category}
    (http : o.ServesHttp backends) (http' : o'.ServesHttp backends) {c : Category} (served : c ∈ backends) (w : W)
    (r : ForwardRequest) : veil (o.forward w c r).1.answer = veil (o'.forward w c r).1.answer := by
  have alike : (o.forward w c r).1.answer.toOption = (o'.forward w c r).1.answer.toOption :=
    congrArg Call.answer (same.forwarded w c r)
  cases answer : (o.forward w c r).1.answer with
  | ok b =>
    cases answer' : (o'.forward w c r).1.answer with
    | ok b' =>
      rw [answer, answer'] at alike
      obtain rfl := Option.some.inj alike
      rfl
    | error e' =>
      rw [answer, answer'] at alike
      cases alike
  | error e =>
    cases answer' : (o'.forward w c r).1.answer with
    | ok b' =>
      rw [answer, answer'] at alike
      cases alike
    | error e' =>
      obtain ⟨detail, rfl⟩ := http.error served answer
      obtain ⟨detail', rfl⟩ := http'.error served answer'
      rfl

/-! ## Gates that agree -/

namespace Gate

variable {α W β γ : Type} {s : Settings} {o o' : Outside W}

/-- two gates leave the same flight of a gateway, with its settings, and come to the same, but for what a provider said -/
def Agree (s : Settings) (x y : Gate α W β) : Prop :=
  ∀ f : Flight α W, f.gateway.settings = s →
    (x.runOn f).2 = (y.runOn f).2 ∧ veil (x.runOn f).1 = veil (y.runOn f).1 ∧ (x.runOn f).2.gateway.settings = s

theorem agree_bind {x y : Gate α W β} {k l : β → Gate α W γ} (first : Agree s x y) (next : ∀ b, Agree s (k b) (l b)) :
    Agree s (x >>= k) (y >>= l) := by
  intro f settings
  obtain ⟨flight, result, kept⟩ := first f settings
  rw [runOn_bind, runOn_bind]
  cases left : x.runOn f with
  | mk r g =>
    cases right : y.runOn f with
    | mk r' g' =>
      rw [left, right] at flight result
      rw [left] at kept
      obtain rfl : g = g' := flight
      rcases veil_eq result with ⟨b, rfl, rfl⟩ | ⟨e, e', rfl, rfl, veiled⟩
      · exact next b g kept
      · exact ⟨rfl, congrArg Except.error veiled, kept⟩

/-- what a gate reads of a flight is the same for both -/
theorem agree_get {k l : Flight α W → Gate α W γ} (next : ∀ f : Flight α W, f.gateway.settings = s → Agree s (k f) (l f)) :
    Agree s (get >>= k) (get >>= l) := by
  intro f settings
  rw [runOn_bind_ok (runOn_get f), runOn_bind_ok (runOn_get f)]
  exact next f settings f settings

theorem agree_pure (b : β) : Agree s (pure b : Gate α W β) (pure b) :=
  fun _ settings => ⟨rfl, rfl, settings⟩

theorem agree_throw (e : GatewayError) : Agree s (throw e : Gate α W β) (throw e) :=
  fun _ settings => ⟨rfl, rfl, settings⟩

theorem agree_set {f : Flight α W} (settings : f.gateway.settings = s) : Agree s (set f : Gate α W PUnit) (set f) :=
  fun _ _ => ⟨rfl, rfl, settings⟩

theorem agree_ofExcept {r r' : Except GatewayError β} (same : veil r = veil r') :
    Agree s (ofExcept r : Gate α W β) (ofExcept r') := by
  intro f settings
  rw [runOn_ofExcept, runOn_ofExcept]
  exact ⟨rfl, same, settings⟩

theorem agree_note (h : RequestContext → RequestContext) : Agree s (note h : Gate α W Unit) (note h) :=
  fun _ settings => ⟨rfl, rfl, settings⟩

theorem agree_advance (stage : Stage) : Agree s (advance stage : Gate α W Unit) (advance stage) :=
  fun _ settings => ⟨rfl, rfl, settings⟩

theorem agree_depart (leaves : Bool) : Agree s (depart leaves : Gate α W Unit) (depart leaves) :=
  fun _ settings => ⟨rfl, rfl, settings⟩

theorem agree_unlessCancelled : Agree s (unlessCancelled : Gate α W Unit) unlessCancelled := by
  intro f settings
  rw [runOn_unlessCancelled]
  exact ⟨rfl, rfl, settings⟩

/-- a failure that both ask for under the same condition -/
theorem agree_guard (c : Prop) [Decidable c] (e : GatewayError) {k l : Unit → Gate α W γ}
    (next : ¬ c → Agree s (k ()) (l ())) :
    Agree s (if c then throw e >>= k else k ()) (if c then throw e >>= l else l ()) := by
  by_cases holds : c
  · rw [if_pos holds, if_pos holds]
    exact fun _ settings => ⟨rfl, rfl, settings⟩
  · rw [if_neg holds, if_neg holds]
    exact next holds

/-! ## The gates of a request -/

theorem agree_resolveTenant : Agree s (resolveTenant : Gate α W Tenant) resolveTenant := by
  unfold resolveTenant
  refine agree_get fun f _ => ?_
  refine agree_bind (agree_ofExcept rfl) fun t => ?_
  refine agree_bind (agree_note _) fun _ => ?_
  refine agree_guard _ _ fun _ => ?_
  exact agree_bind (agree_note _) fun _ => agree_pure t

theorem agree_matchRoute (t : Tenant) : Agree s (matchRoute t : Gate α W Category) (matchRoute t) := by
  unfold matchRoute
  refine agree_get fun f _ => ?_
  refine agree_bind (agree_note _) fun _ => ?_
  refine agree_guard _ _ fun _ => ?_
  refine agree_bind (agree_advance _) fun _ => ?_
  exact agree_guard _ _ fun _ => agree_pure _

variable [Quantity α]

/-- the source is asked the same, and what it says when it fails goes no further than the cache -/
theorem agree_fetchToken (same : o.SameButErrors o') (audience : String) :
    Agree s (fetchToken o audience : Gate α W AccessToken) (fetchToken o' audience) := by
  intro f settings
  obtain ⟨answer, abandoned, span, reloads, cancelled⟩ := Call.alike (same.fetched f.world audience f.now)
  rw [runOn_fetchToken, runOn_fetchToken]
  dsimp only
  rw [same.fetchedWorld, abandoned, span, reloads, cancelled]
  have kept : (f.gateway.reloadAll (o'.fetch f.world audience f.now).1.reloads).settings = s :=
    (Gateway.reloadAll_settings f.gateway _).trans settings
  split_ifs
  · exact ⟨rfl, rfl, kept⟩
  · obtain ⟨cache, token⟩ := f.gateway.cache.settle_alike audience
      (f.now + (o'.fetch f.world audience f.now).1.span) answer
    rw [cache]
    exact ⟨rfl, token, kept⟩

theorem agree_token (same : o.SameButErrors o') (audience : String) :
    Agree s (token o audience : Gate α W AccessToken) (token o' audience) := by
  unfold token
  refine agree_get fun f settings => ?_
  cases f.gateway.cache.fresh? audience f.now with
  | none => exact agree_fetchToken same audience
  | some token =>
    dsimp only
    rw [same.meanwhile]
    refine agree_bind (agree_set ?_) fun _ => agree_pure token
    exact (Gateway.reloadAll_settings f.gateway _).trans settings

theorem agree_authenticate (same : o.SameButErrors o') (t : Tenant) (c : Category) :
    Agree s (authenticate o t c : Gate α W Unit) (authenticate o' t c) := by
  unfold authenticate
  refine agree_bind agree_unlessCancelled fun _ => ?_
  refine agree_bind (agree_ofExcept rfl) fun audience => ?_
  refine agree_bind (agree_token same audience) fun token => ?_
  refine agree_get fun f _ => ?_
  refine agree_bind (agree_note _) fun _ => ?_
  refine agree_bind (agree_ofExcept rfl) fun _ => ?_
  exact agree_bind (agree_note _) fun _ => agree_advance _

theorem agree_takeTokens (caller : Caller) (t : Tenant) :
    Agree s (takeTokens caller t : Gate α W Unit) (takeTokens caller t) := by
  unfold takeTokens
  refine agree_bind (agree_depart _) fun _ => ?_
  refine agree_bind agree_unlessCancelled fun _ => ?_
  refine agree_get fun f settings => ?_
  refine agree_bind (agree_set settings) fun _ => ?_
  refine agree_guard _ _ fun _ => ?_
  refine agree_bind (agree_note _) fun _ => ?_
  split
  · exact agree_throw _
  · exact agree_advance _

/-- the backend is asked the same, and of what it says when it fails nothing is left -/
theorem agree_dispatch (same : o.SameButErrors o') (http : o.ServesHttp s.backends) (http' : o'.ServesHttp s.backends)
    (caller : Caller) (c : Category) (body : List UInt8) :
    Agree s (dispatch o caller c body : Gate α W Response) (dispatch o' caller c body) := by
  unfold dispatch
  refine agree_bind agree_unlessCancelled fun _ => ?_
  refine agree_get fun f settings => ?_
  refine agree_guard _ _ fun served => ?_
  refine agree_bind (agree_depart _) fun _ => ?_
  refine agree_bind agree_unlessCancelled fun _ => ?_
  have served : c ∈ s.backends := by simpa [settings] using served
  dsimp only
  generalize ({ method := _, path := _, headers := _, body } : ForwardRequest) = request
  have call := same.forwarded f.world c request
  have veiled := same.veil_forward http http' served f.world request
  obtain ⟨-, -, -, reloads, cancelled⟩ := Call.alike call
  obtain ⟨elapsed, response⟩ := Call.ending_alike call veiled (some f.gateway.settings.timeout)
    f.gateway.settings.config.backends.timeoutMs
  rw [same.forwardedWorld, reloads, elapsed, cancelled]
  refine agree_bind (agree_set ((Gateway.reloadAll_settings f.gateway _).trans settings)) fun _ => ?_
  refine agree_bind (agree_ofExcept response) fun answer => ?_
  exact agree_bind (agree_advance _) fun _ => agree_pure answer

/-- **A request passes the gates alike.** -/
theorem agree_pass (same : o.SameButErrors o') (http : o.ServesHttp s.backends) (http' : o'.ServesHttp s.backends)
    (caller : Caller) (body : List UInt8) : Agree s (pass o caller body : Gate α W Response) (pass o' caller body) := by
  unfold pass
  refine agree_bind agree_resolveTenant fun t => ?_
  refine agree_bind (agree_matchRoute t) fun c => ?_
  refine agree_bind (agree_authenticate same t c) fun _ => ?_
  exact agree_bind (agree_takeTokens caller t) fun _ => agree_dispatch same http http' caller c body

end Gate

/-! ## Whole requests -/

/-- what the caller is answered when the request has been handled -/
def Response.ofHandled : Except ErrorReply Reply → Response
  | .ok reply => reply.response
  | .error e => e.response

namespace Gateway

variable {α W : Type} [Quantity α] {o o' : Outside W} {g : Gateway α}

/-- a request is handled alike: it leaves the same flight, and its caller gets the same reply or is told of the same failure -/
theorem handle_alike (same : o.SameButErrors o') (http : o.ServesHttp g.settings.backends)
    (http' : o'.ServesHttp g.settings.backends) (world : W) (now : ℕ) (requestId : String) (caller : Caller) (r : Inbound) :
    (g.handle o world now requestId caller r).2 = (g.handle o' world now requestId caller r).2 ∧
      ((∃ reply, (g.handle o world now requestId caller r).1 = .ok reply ∧
          (g.handle o' world now requestId caller r).1 = .ok reply) ∨
        ∃ e e', (g.handle o world now requestId caller r).1 = .error e ∧
          (g.handle o' world now requestId caller r).1 = .error e' ∧ e.response = e'.response) := by
  obtain ⟨flight, result, -⟩ := Gate.agree_pass same http http' caller r.body (g.receive world now requestId caller r) rfl
  rw [handle_eq, handle_eq]
  cases left : (Gate.pass o caller r.body).runOn (g.receive world now requestId caller r) with
  | mk answer f =>
    cases right : (Gate.pass o' caller r.body).runOn (g.receive world now requestId caller r) with
    | mk answer' f' =>
      rw [left, right] at flight result
      obtain rfl : f = f' := flight
      rcases veil_eq result with ⟨b, rfl, rfl⟩ | ⟨e, e', rfl, rfl, veiled⟩
      · exact ⟨rfl, .inl ⟨_, rfl, rfl⟩⟩
      · have code : e.code = e'.code := by rw [← e.code_veiled, veiled, e'.code_veiled]
        have response : (f.context.errorReply e).response = (f.context.errorReply e').response := by
          rw [← ErrorReply.response_veiled, ← ErrorReply.response_veiled (f.context.errorReply e')]
          exact congrArg (fun veiled => ErrorReply.response { f.context.errorReply e with error := veiled }) veiled
        refine ⟨?_, .inr ⟨_, _, rfl, rfl, response⟩⟩
        simp only [Flight.fail, code]

theorem proxy_alike (same : o.SameButErrors o') (http : o.ServesHttp g.settings.backends)
    (http' : o'.ServesHttp g.settings.backends) (world : W) (now : ℕ) (requestId : String) (r : Request) :
    g.proxy o world now requestId r = g.proxy o' world now requestId r := by
  unfold proxy
  cases g.inbound r with
  | error e => rfl
  | ok inbound =>
    obtain ⟨flight, result⟩ := handle_alike same http http' world now requestId { gone := g.closing } inbound
    dsimp only
    generalize g.handle o world now requestId { gone := g.closing } inbound = handled at flight result ⊢
    generalize g.handle o' world now requestId { gone := g.closing } inbound = handled' at flight result ⊢
    obtain ⟨answer, f⟩ := handled
    obtain ⟨answer', f'⟩ := handled'
    obtain rfl : f = f' := flight
    rcases result with ⟨reply, rfl, rfl⟩ | ⟨e, e', rfl, rfl, response⟩
    · rfl
    · simp only [response]

theorem serve_alike (same : o.SameButErrors o') (http : o.ServesHttp g.settings.backends)
    (http' : o'.ServesHttp g.settings.backends) (world : W) (now : ℕ) (requestId : String) (r : Request) :
    g.serve o world now requestId r = g.serve o' world now requestId r := by
  unfold serve
  rw [proxy_alike same http http']

theorem Change.settings {g g' : Gateway α} (change : Change g g') : g'.settings = g.settings := by
  cases change with
  | reloaded next => exact g.reload_settings next
  | relayed r =>
    unfold relay
    cases r.countedFor <;> rfl
  | _ => rfl

/-- settings stay what they are -/
theorem Changes.settings {g g' : Gateway α} (changes : Changes g g') : g'.settings = g.settings :=
  changes.keep (P := fun h => h.settings = g.settings) (fun change kept => change.settings.trans kept) rfl

end Gateway

/-! ## A gateway at work -/

namespace Service

variable {α W : Type} [Quantity α] {o o' : Outside W}

/-- what is answered in a turn, if it is a request -/
def answer? (o : Outside W) (s : Service α W) : Turn → Option Response
  | .request now requestId r => some (s.gateway.serve o s.world now requestId r).response
  | .inbound now requestId caller r => some (Response.ofHandled (s.gateway.handle o s.world now requestId caller r).1)
  | _ => none

/-- the responses of a list of turns -/
def responses (o : Outside W) (s : Service α W) : List Turn → List Response
  | [] => []
  | t :: ts => (s.answer? o t).toList ++ (s.step o t).responses o ts

theorem step_settings (o : Outside W) (s : Service α W) (t : Turn) : (s.step o t).gateway.settings = s.gateway.settings :=
  (step_changes o s t).settings

theorem step_alike (same : o.SameButErrors o') {s : Service α W} (http : o.ServesHttp s.gateway.settings.backends)
    (http' : o'.ServesHttp s.gateway.settings.backends) (t : Turn) :
    s.step o t = s.step o' t ∧ s.answer? o t = s.answer? o' t := by
  cases t with
  | request now requestId r =>
    have served := Gateway.serve_alike same http http' s.world now requestId r
    simp only [step, answer?, served, and_self]
  | inbound now requestId caller r =>
    obtain ⟨flight, result⟩ := Gateway.handle_alike same http http' s.world now requestId caller r
    refine ⟨by simp only [step, flight], ?_⟩
    rcases result with ⟨reply, told, told'⟩ | ⟨e, e', told, told', response⟩
    · simp only [answer?, told, told']
    · simp only [answer?, told, told', Response.ofHandled, response]
  | _ => exact ⟨rfl, rfl⟩

/-- **What a provider says never reaches a caller.** Take a gateway in any state, whose backends are reached over HTTP, and two
worlds that differ in the failures of the token source, in their kinds and texts, and in the texts of the backends' failures.
Whatever comes to the gateway, it ends in the same state in both, its cache and its limiter among the rest, and every response
on the way is the same in status, headers and body. -/
theorem provider_detail_hidden (same : o.SameButErrors o') (s : Service α W)
    (http : o.ServesHttp s.gateway.settings.backends) (http' : o'.ServesHttp s.gateway.settings.backends) (ts : List Turn) :
    s.run o ts = s.run o' ts ∧ s.responses o ts = s.responses o' ts := by
  induction ts generalizing s with
  | nil => simp only [run, responses, List.foldl_nil, and_self]
  | cons t ts ih =>
    obtain ⟨next, answer⟩ := step_alike same http http' t
    rw [← step_settings o s t] at http http'
    obtain ⟨last, later⟩ := ih (s.step o t) http http'
    constructor
    · rw [run_cons, run_cons, ← next]
      exact last
    · rw [responses, responses, answer, ← next]
      exact congrArg _ later

/-- a network in which nobody answers -/
def deadNetwork : Network Unit := ⟨fun w _ => (none, w)⟩

/-- over it every request fails -/
theorem toOption_forward_deadNetwork (b : HttpBackend) (r : ForwardRequest) :
    (b.forward deadNetwork () r).1.toOption = none := by
  have fails (first : Url) (q : WireRequest) : ∃ e, Client.send deadNetwork () first q = (.error e, ()) := by
    unfold Client.send
    split
    · exact ⟨_, rfl⟩
    · exact ⟨_, rfl⟩
  unfold HttpBackend.forward
  cases b.request r with
  | error e => rfl
  | ok q =>
    obtain ⟨e, sent⟩ := fails q.url q
    simp only [Client.exchange, Client.redirectLimit, Client.follow, sent]
    rfl

/-- a world whose token source fails once, with some failure, and whose backends at some address nobody reaches -/
def faultyOutside (cause : GatewayError) (address : String) : Outside ℕ where
  fetch w _ _ := ({ answer := if w = 0 then .error cause else .ok ⟨"secret", 60⟩ }, w + 1)
  forward w c r := ({ answer := ((HttpBackend.make c.name address).forward deadNetwork () r).1 }, w)

theorem faultyOutside_servesHttp (cause : GatewayError) (address : String) (backends : List Category) :
    (faultyOutside cause address).ServesHttp backends := by
  intro c _
  refine ⟨.make c.name address, fun w r => ⟨Unit, deadNetwork, (), ?_⟩⟩
  simp only [faultyOutside]

theorem faultyOutside_sameButErrors (cause cause' : GatewayError) (address address' : String) :
    (faultyOutside cause address).SameButErrors (faultyOutside cause' address') where
  fetched w _ _ := by
    cases w <;> rfl
  fetchedWorld _ _ _ := rfl
  forwarded w c r := by
    simp only [faultyOutside, Call.withoutError, toOption_forward_deadNetwork]
  forwardedWorld _ _ _ := rfl
  meanwhile _ := rfl

/-- the same request twice -/
def twoTries : List Turn :=
  [.request 0 "5f0c7d1e-3a52-4b0e-9d64-1c2f8e7a9b30" Gateway.sampleRequest,
    .request 1 "0d1f2e3c-4b5a-4978-8a69-b7c6d5e4f302" Gateway.sampleRequest]

/-- **Two failures.** A source that is refused its key or is not configured, and a backend at one address or another: the first
request fails for want of a token, the second because its backend is not reached, and the caller sees no difference. -/
theorem provider_detail_hidden_faulty :
    let o := faultyOutside (.badRequest "key 7f3a was revoked") "http://10.0.0.7"
    let o' := faultyOutside (.internal "no identity endpoint") "http://10.0.0.8"
    let s : Service ℚ ℕ := ⟨Gateway.sample, 0⟩
    o.SameButErrors o' ∧ o.ServesHttp s.gateway.settings.backends ∧ o'.ServesHttp s.gateway.settings.backends ∧
      s.run o twoTries = s.run o' twoTries ∧ s.responses o twoTries = s.responses o' twoTries ∧
      (s.responses o' twoTries).map (·.status) = [502, 502] := by
  have statuses : ((⟨Gateway.sample, 0⟩ : Service ℚ ℕ).responses
      (faultyOutside (.internal "no identity endpoint") "http://10.0.0.8") twoTries).map (·.status) = [502, 502] := by
    decide +kernel
  intro o o' s
  have same : o.SameButErrors o' := faultyOutside_sameButErrors ..
  have http : o.ServesHttp s.gateway.settings.backends := faultyOutside_servesHttp _ _ _
  have http' : o'.ServesHttp s.gateway.settings.backends := faultyOutside_servesHttp _ _ _
  obtain ⟨run, responses⟩ := provider_detail_hidden same s http http' twoTries
  exact ⟨same, http, http', run, responses, statuses⟩

end Service

end TenantGateway
