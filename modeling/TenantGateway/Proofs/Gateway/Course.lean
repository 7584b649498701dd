/-
Every way in which a passage through the gateway can end.

`Course` lists them, each with all that has to hold for it, its result and its last flight. `course` says that every passage
takes one of them. It is put together from one lemma for each gate, at the flight where the gate is run.
-/
import TenantGateway.Proofs.Gateway.Passage

namespace TenantGateway

namespace Headers

/-- authorizing takes a token and an id that can be sent; the headers then hold both and no key -/
theorem authorize_eq (h : Headers) (token : AccessToken) (t : Tenant) :
    h.authorize token t =
      match HeaderValue.ofText? ("Bearer " ++ token.secret) with
      | none => (h.remove .apiKey, .error (.credentialUnavailable "token is not a valid header value"))
      | some v =>
        let h := (h.remove .apiKey).insert .authorization { v with sensitive := true }
        match HeaderValue.ofText? t.id with
        | none => (h, .error (.badRequest ("tenant id is not a valid header value: " ++ t.id)))
        | some w => (h.insert .tenantId w, .ok ()) := by
  unfold authorize withToken withTenant AccessToken.bearer
  cases HeaderValue.ofText? ("Bearer " ++ token.secret) with
  | none => rfl
  | some v =>
    dsimp only
    cases HeaderValue.ofText? t.id <;> rfl

end Headers

namespace Gate

variable {α W : Type} [Quantity α]

theorem runOn_fetchToken (o : Outside W) (audience : String) (f : Flight α W) :
    (fetchToken o audience).runOn f =
      let call := (o.fetch f.world audience f.now).1
      let settled := f.gateway.cache.settle audience (f.now + call.span) call.answer
      let after : Flight α W :=
        { f with
          gateway := f.gateway.reloadAll call.reloads
          world := (o.fetch f.world audience f.now).2
          now := f.now + call.span
          cancelled := f.cancelled || call.isCancelledBy call.span }
      if call.isAbandoned then (.error .clientClosed, after)
      else (settled.2, { after with gateway := { after.gateway with cache := settled.1 } }) := by
  unfold fetchToken
  simp only [runOn_bind, runOn_get, Call.ending_unlimited, Gateway.reloadAll_cache]
  cases (o.fetch f.world audience f.now).1.isAbandoned with
  | true => rfl
  | false => simp [runOn_bind, runOn_set, runOn_ofExcept]

end Gate

namespace Flight

variable {α W : Type} (f : Flight α W) (r : Except GatewayError Response)

/-- the end of a flight with a result: what the caller is told, and what is recorded -/
def closed : Except ErrorReply Reply × Flight α W :=
  match r with
  | .ok answer => (.ok (f.context.reply answer), f.complete answer)
  | .error e => (.error (f.context.errorReply e), f.fail e)

theorem closed_forwarded : (f.closed r).2.forwarded = f.forwarded := by
  cases r <;> rfl

theorem closed_limiter : (f.closed r).2.gateway.limiter = f.gateway.limiter := by
  cases r <;> rfl

theorem closed_cache : (f.closed r).2.gateway.cache = f.gateway.cache := by
  cases r <;> rfl

theorem closed_world : (f.closed r).2.world = f.world := by
  cases r <;> rfl

end Flight

namespace Passage

variable {α W : Type} (p : Passage α W)

/-! ## Each gate where it stands -/

theorem runOn_resolveTenant :
    (Gate.resolveTenant : Gate α W Tenant).runOn p.received =
      match p.tenant? with
      | none => (.error (.unknownTenant p.request.tenantId), p.received)
      | some t => if t.enabled then (.ok t, p.resolved t) else (.error (.tenantDisabled t.id), p.named t) := by
  unfold Gate.resolveTenant tenant?
  simp only [Gate.runOn_bind, Gate.runOn_get, Gate.runOn_ofExcept, Registry.resolve, received, Gateway.receive]
  cases p.gateway.registry.current.get? p.request.tenantId with
  | none => rfl
  | some t =>
    simp only [Gate.runOn_note, Gate.runOn_ite, Gate.runOn_bind]
    cases on : t.enabled with
    | false => rfl
    | true =>
      simp [Gate.runOn_pure, RequestContext.tagPolicy_eq, resolved, received, Gateway.receive]

theorem runOn_matchRoute (t : Tenant) :
    (Gate.matchRoute t).runOn (p.resolved t) =
      if p.category.isMatched then
        if t.backendEnabled p.category then (.ok p.category, p.matched t)
        else (.error (.backendDisabled t.id p.category.name), p.matched t)
      else (.error (.notFound p.barePath), p.classified t) := by
  unfold Gate.matchRoute
  simp only [Gate.runOn_bind, Gate.runOn_get, Gate.runOn_note, Gate.runOn_ite, Gate.runOn_advance]
  have category : (p.resolved t).gateway.settings.routes.classify (p.resolved t).context.path = p.category := rfl
  rw [category]
  cases p.category.isMatched with
  | false => rfl
  | true =>
    cases t.backendEnabled p.category with
    | false => rfl
    | true => rfl

variable [Quantity α]

theorem supplied_settings : p.supplied.settings = p.gateway.settings :=
  Gateway.reloadAll_settings p.gateway p.tokenLoads

theorem audienceOf_matched {c : Category} (h : c.isMatched = true) : audienceOf c = .ok Category.serviceAudience := by
  cases c with
  | unmatched => simp [Category.isMatched] at h
  | _ => rfl

/-- a caller who has left waits for nothing -/
theorem waited_of_gone (t : Tenant) (gone : p.caller.gone = true) : p.waited t = p.matched t := by
  have asks : p.asksSource = false := by simp [asksSource, gone]
  have same : p.supplied = p.gateway := by simp [supplied, tokenLoads, tokenCache, Gateway.reloadAll, asks, gone]
  simp [waited, same, tokenWorld, tokenInstant, asks, matched, classified, resolved, received, Gateway.receive]

/-- where the source is not asked, only what is loaded meanwhile changes -/
theorem waited_of_not_asking (t : Tenant) (here : p.caller.gone = false) (asks : p.asksSource = false) :
    p.waited t =
      { p.matched t with gateway := p.gateway.reloadAll (p.outside.meanwhile p.world) } := by
  have cache : p.tokenCache = (p.gateway.reloadAll (p.outside.meanwhile p.world)).cache := by
    rw [Gateway.reloadAll_cache]
    simp [tokenCache, asks]
  simp [waited, supplied, tokenLoads, cache, tokenWorld, tokenInstant, asks, here, matched, classified, resolved,
    received, Gateway.receive]

/-- where the source is asked, the reloads and the cache are those of its call -/
theorem waited_of_asking (t : Tenant) (here : p.caller.gone = false) (asks : p.asksSource = true) :
    p.waited t =
      { p.matched t with
        gateway := { p.gateway.reloadAll p.tokenCall.reloads with cache := p.tokenCache }
        world := (p.outside.fetch p.world Category.serviceAudience p.now).2
        now := p.now + p.tokenCall.span
        cancelled := p.caller.gone || p.tokenCall.isCancelledBy p.tokenCall.span } := by
  simp [waited, supplied, tokenLoads, tokenWorld, tokenInstant, asks, here]

omit [Quantity α] in
/-- what the source comes to, as the acquisition has it -/
theorem settle_eq (hc : p.cached? = none) (here : p.caller.gone = false) (answers : p.tokenCall.isAbandoned = false) :
    (p.gateway.cache.settle Category.serviceAudience p.tokenInstant p.tokenCall.answer).2 = p.acquisition.result := by
  unfold acquisition
  simp only [here, hc, answers]
  cases p.tokenCall.answer with
  | ok issued => rfl
  | error e =>
    have valid : ∀ c : CredentialCache, { c with failures := c.failures + 1 }.valid? Category.serviceAudience 0
        p.tokenInstant = c.valid? Category.serviceAudience 0 p.tokenInstant := fun _ => rfl
    simp only [CredentialCache.settle, CredentialCache.take, Except.map, valid]
    cases p.gateway.cache.valid? Category.serviceAudience 0 p.tokenInstant with
    | some token => rfl
    | none => simp [Acquisition.result, CredentialCache.unavailable_eq]

/-- asking for a token, where the caller is still there -/
theorem runOn_token (t : Tenant) (here : p.caller.gone = false) :
    (Gate.token p.outside Category.serviceAudience).runOn (p.matched t) =
      (p.acquisition.result, p.waited t) := by
  unfold Gate.token
  simp only [Gate.runOn_bind, Gate.runOn_get]
  have cached : (p.matched t).gateway.cache.fresh? Category.serviceAudience (p.matched t).now = p.cached? := rfl
  rw [cached]
  cases hc : p.cached? with
  | some token =>
    have asks : p.asksSource = false := by simp [asksSource, hc]
    have acquired : p.acquisition = .acquired token := by simp [acquisition, here, hc]
    rw [waited_of_not_asking p t here asks, acquired]
    rfl
  | none =>
    have asks : p.asksSource = true := by simp [asksSource, here, hc]
    have waited := p.waited_of_asking t here asks
    rw [Gate.runOn_fetchToken]
    cases answers : p.tokenCall.isAbandoned with
    | true =>
      have abandoned : p.acquisition = .abandoned := by simp [acquisition, here, hc, answers]
      have cache : p.tokenCache = p.gateway.cache := by simp [tokenCache, answers]
      rw [abandoned, waited, cache, ← Gateway.reloadAll_cache p.gateway p.tokenCall.reloads]
      exact if_pos answers
    | false =>
      have cache : p.tokenCache =
          (p.gateway.cache.settle Category.serviceAudience p.tokenInstant p.tokenCall.answer).1 := by
        simp [tokenCache, asks, answers]
      have instant : p.tokenInstant = p.now + p.tokenCall.span := by simp [tokenInstant, asks]
      rw [← settle_eq p hc here answers, waited, cache, instant]
      exact if_neg (ne_true_of_eq_false answers)

theorem runOn_authenticate (t : Tenant) (matched : p.category.isMatched = true) :
    (Gate.authenticate p.outside t p.category).runOn (p.matched t) =
      match p.acquisition with
      | .acquired token =>
        match (p.request.headers.authorize token t).2 with
        | .ok () => (.ok (), p.authenticated t token)
        | .error e => (.error e, p.rewritten t token)
      | other => (other.result.map fun _ => (), p.waited t) := by
  unfold Gate.authenticate
  simp only [Gate.runOn_bind, Gate.runOn_get, Gate.runOn_unlessCancelled, Gate.runOn_ofExcept,
    audienceOf_matched matched]
  have gone : (p.matched t).cancelled = p.caller.gone := rfl
  rw [gone]
  cases here : p.caller.gone with
  | true =>
    have abandoned : p.acquisition = .abandoned := by simp [acquisition, here]
    rw [abandoned, waited_of_gone p t here]
    rfl
  | false =>
    simp only [Bool.false_eq_true, if_false, p.runOn_token t here]
    cases p.acquisition with
    | abandoned => rfl
    | failed detail => rfl
    | acquired token =>
      have headers : (p.waited t).context.headers = p.request.headers := rfl
      simp only [Acquisition.result, Gate.runOn_note, Gate.runOn_advance, headers]
      cases (p.request.headers.authorize token t).2 with
      | ok u => rfl
      | error e => rfl

theorem runOn_takeTokens (t : Tenant) (token : AccessToken) :
    (Gate.takeTokens p.caller t).runOn (p.authenticated t token) =
      if p.caller.gone || p.leavesBeforeAdmission then (.error .clientClosed, p.parted t token)
      else
        match (p.charge t).2 with
        | .revoked => (.error (p.supplied.registry.revocation t.id), p.asked t token)
        | .throttled remaining retryAfter => (.error (.throttled remaining retryAfter), p.decided t token)
        | .admitted _ => (.ok (), p.admitted t token) := by
  have depart : (Gate.depart p.caller.leavesWithToken).runOn (p.authenticated t token) = (.ok (), p.parted t token) := by
    rw [Gate.runOn_depart]
    simp [parted, leavesBeforeAdmission, authenticated, rewritten, waited, Bool.or_assoc]
  have cancelled : (p.parted t token).cancelled = (p.caller.gone || p.leavesBeforeAdmission) := rfl
  unfold Gate.takeTokens
  rw [Gate.runOn_bind_ok depart]
  cases leaves : p.caller.gone || p.leavesBeforeAdmission with
  | true =>
    rw [Gate.runOn_unless_left (cancelled.trans leaves)]
    rfl
  | false =>
    rw [Gate.runOn_unless_here (cancelled.trans leaves), Gate.runOn_bind_ok (Gate.runOn_get _)]
    have charge : (p.parted t token).gateway.limiter.charge (some (p.parted t token).gateway.registry.current) t
        (p.parted t token).gateway.settings.requestCost (p.parted t token).now = p.charge t := by
      have settings : (p.parted t token).gateway.settings = p.gateway.settings := p.supplied_settings
      rw [settings]
      rfl
    simp only [charge]
    rw [if_neg Bool.false_ne_true]
    refine (Gate.runOn_bind_ok (show _ = (Except.ok PUnit.unit, p.asked t token) from rfl)).trans ?_
    have decide : (Gate.note fun c => { c with admission := some (p.charge t).2 }).runOn (p.asked t token) =
        (.ok (), p.decided t token) := rfl
    cases answer : (p.charge t).2 with
    | revoked => rfl
    | throttled remaining retryAfter =>
      rw [answer] at decide
      rw [if_neg (by nofun), Gate.runOn_bind_ok decide]
      rfl
    | admitted remaining =>
      rw [answer] at decide
      rw [if_neg (by nofun), Gate.runOn_bind_ok decide]
      rfl

theorem runOn_dispatch (t : Tenant) (token : AccessToken) :
    (Gate.dispatch p.outside p.caller p.category p.request.body).runOn (p.admitted t token) =
      if p.caller.gone || p.leavesBeforeAdmission || p.leavesBeforeDispatch t then
        (.error .clientClosed, p.admitted t token)
      else if p.gateway.settings.backends.contains p.category then
        if p.caller.leavesAtDispatch then (.error .clientClosed, p.chosen t token)
        else
          match p.outcome (p.outgoing t token) with
          | .ok answer => (.ok answer, p.answered t token)
          | .error e => (.error e, p.forwarded t token)
      else
        (.error (.backendUnavailable ("no backend configured for " ++ p.category.name)), p.admitted t token) := by
  have cancelled : (p.admitted t token).cancelled =
      (p.caller.gone || p.leavesBeforeAdmission || p.leavesBeforeDispatch t) := rfl
  unfold Gate.dispatch
  cases leaves : p.caller.gone || p.leavesBeforeAdmission || p.leavesBeforeDispatch t with
  | true =>
    rw [Gate.runOn_unless_left (cancelled.trans leaves)]
    rfl
  | false =>
    rw [Gate.runOn_unless_here (cancelled.trans leaves), Gate.runOn_bind_ok (Gate.runOn_get _),
      if_neg Bool.false_ne_true]
    have settings : (p.admitted t token).gateway.settings = p.gateway.settings := p.supplied_settings
    simp only [settings]
    cases p.gateway.settings.backends.contains p.category with
    | false => rfl
    | true =>
      have depart : (Gate.depart p.caller.leavesAtDispatch).runOn (p.admitted t token) = (.ok (), p.chosen t token) := rfl
      have cancelled' : (p.chosen t token).cancelled = p.caller.leavesAtDispatch := by
        simp [chosen, leaves]
      simp only [Bool.not_true, Bool.false_eq_true, if_false, if_true]
      rw [Gate.runOn_bind_ok depart]
      cases left : p.caller.leavesAtDispatch with
      | true =>
        rw [Gate.runOn_unless_left (cancelled'.trans left)]
        rfl
      | false =>
        rw [Gate.runOn_unless_here (cancelled'.trans left), if_neg Bool.false_ne_true]
        refine (Gate.runOn_bind_ok (Gate.runOn_set _ (p.forwarded t token))).trans ?_
        have response : (Gate.ofExcept (p.outcome (p.outgoing t token)) : Gate α W Response).runOn
            (p.forwarded t token) = (p.outcome (p.outgoing t token), p.forwarded t token) := Gate.runOn_ofExcept _ _
        cases answer : p.outcome (p.outgoing t token) with
        | ok r => exact (Gate.runOn_bind_ok (response.trans (congrArg (·, _) answer))).trans rfl
        | error e => exact Gate.runOn_bind_error (response.trans (congrArg (·, _) answer))

/-! ## The whole way -/

/-- the request is let in for a tenant: what is checked before a token is needed holds -/
structure LetIn (t : Tenant) : Prop where
  found : p.tenant? = some t
  enabled : t.enabled = true
  matched : p.category.isMatched = true
  allowed : t.backendEnabled p.category = true

/-- and its headers hold a token -/
structure Authorized (t : Tenant) (token : AccessToken) : Prop extends p.LetIn t where
  acquired : p.acquisition = .acquired token
  sendable : (p.request.headers.authorize token t).2 = .ok ()

/-- and it is paid for -/
structure Paid (t : Tenant) (token : AccessToken) (remaining : ℕ) : Prop extends p.Authorized t token where
  stayed : p.leavesBeforeAdmission = false
  admitted : (p.charge t).2 = .admitted remaining

/-- and there is a backend for it -/
structure Placed (t : Tenant) (token : AccessToken) (remaining : ℕ) : Prop
    extends p.Paid t token remaining where
  remained : p.leavesBeforeDispatch t = false
  served : p.gateway.settings.backends.contains p.category = true

/-- the ways through the gates, each with its result and its last flight -/
inductive Course : Except GatewayError Response → Flight α W → Prop
  | unknown (none : p.tenant? = none) : Course (.error (.unknownTenant p.request.tenantId)) p.received
  | disabled {t : Tenant} (found : p.tenant? = some t) (disabled : t.enabled = false) :
      Course (.error (.tenantDisabled t.id)) (p.named t)
  | unmatched {t : Tenant} (found : p.tenant? = some t) (enabled : t.enabled = true)
      (unmatched : p.category.isMatched = false) : Course (.error (.notFound p.barePath)) (p.classified t)
  | barred {t : Tenant} (found : p.tenant? = some t) (enabled : t.enabled = true)
      (matched : p.category.isMatched = true) (barred : t.backendEnabled p.category = false) :
      Course (.error (.backendDisabled t.id p.category.name)) (p.matched t)
  | uncredited {t : Tenant} {e : GatewayError} (letIn : p.LetIn t) (failed : p.acquisition.result = .error e) :
      Course (.error e) (p.waited t)
  | unsendable {t : Tenant} {token : AccessToken} {e : GatewayError} (letIn : p.LetIn t)
      (acquired : p.acquisition = .acquired token)
      (unsendable : (p.request.headers.authorize token t).2 = .error e) : Course (.error e) (p.rewritten t token)
  | left {t : Tenant} {token : AccessToken} (authorized : p.Authorized t token)
      (left : p.leavesBeforeAdmission = true) : Course (.error .clientClosed) (p.parted t token)
  | revoked {t : Tenant} {token : AccessToken} (authorized : p.Authorized t token)
      (stayed : p.leavesBeforeAdmission = false) (revoked : (p.charge t).2 = .revoked) :
      Course (.error (p.supplied.registry.revocation t.id)) (p.asked t token)
  | throttled {t : Tenant} {token : AccessToken} {remaining retryAfter : ℕ}
      (authorized : p.Authorized t token) (stayed : p.leavesBeforeAdmission = false)
      (throttled : (p.charge t).2 = .throttled remaining retryAfter) :
      Course (.error (.throttled remaining retryAfter)) (p.decided t token)
  | leftPaid {t : Tenant} {token : AccessToken} {remaining : ℕ} (paid : p.Paid t token remaining)
      (left : p.leavesBeforeDispatch t = true) : Course (.error .clientClosed) (p.admitted t token)
  | unplaced {t : Tenant} {token : AccessToken} {remaining : ℕ} (paid : p.Paid t token remaining)
      (remained : p.leavesBeforeDispatch t = false)
      (unserved : p.gateway.settings.backends.contains p.category = false) :
      Course (.error (.backendUnavailable ("no backend configured for " ++ p.category.name))) (p.admitted t token)
  | leftPlaced {t : Tenant} {token : AccessToken} {remaining : ℕ} (placed : p.Placed t token remaining)
      (left : p.caller.leavesAtDispatch = true) : Course (.error .clientClosed) (p.chosen t token)
  | failed {t : Tenant} {token : AccessToken} {remaining : ℕ} {e : GatewayError}
      (placed : p.Placed t token remaining) (stayed : p.caller.leavesAtDispatch = false)
      (failed : p.outcome (p.outgoing t token) = .error e) : Course (.error e) (p.forwarded t token)
  | answered {t : Tenant} {token : AccessToken} {remaining : ℕ} {r : Response}
      (placed : p.Placed t token remaining) (stayed : p.caller.leavesAtDispatch = false)
      (answered : p.outcome (p.outgoing t token) = .ok r) : Course (.ok r) (p.answered t token)

variable {p} {t : Tenant} {token : AccessToken} {remaining : ℕ}

omit [Quantity α] in
theorem here_of_acquired (acquired : p.acquisition = .acquired token) : p.caller.gone = false := by
  cases here : p.caller.gone with
  | false => rfl
  | true => simp [acquisition, here] at acquired

theorem course_of_paid (paid : p.Paid t token remaining) :
    ∃ r f, (Gate.dispatch p.outside p.caller p.category p.request.body).runOn (p.admitted t token) = (r, f) ∧
      p.Course r f := by
  have way := p.runOn_dispatch t token
  rw [here_of_acquired paid.acquired, paid.stayed] at way
  cases remained : p.leavesBeforeDispatch t with
  | true => exact ⟨_, _, by rw [way, remained]; rfl, .leftPaid paid remained⟩
  | false =>
    cases served : p.gateway.settings.backends.contains p.category with
    | false => exact ⟨_, _, by rw [way, remained, served]; rfl, .unplaced paid remained served⟩
    | true =>
      cases left : p.caller.leavesAtDispatch with
      | true => exact ⟨_, _, by rw [way, remained, served, left]; rfl, .leftPlaced ⟨paid, remained, served⟩ left⟩
      | false =>
        cases answer : p.outcome (p.outgoing t token) with
        | ok r =>
          exact ⟨_, _, by rw [way, remained, served, left, answer]; rfl,
            .answered ⟨paid, remained, served⟩ left answer⟩
        | error e =>
          exact ⟨_, _, by rw [way, remained, served, left, answer]; rfl,
            .failed ⟨paid, remained, served⟩ left answer⟩

theorem course_of_authorized (authorized : p.Authorized t token) :
    ∃ r f, (Gate.takeTokens p.caller t >>= fun _ =>
        Gate.dispatch p.outside p.caller p.category p.request.body).runOn (p.authenticated t token) = (r, f) ∧
      p.Course r f := by
  have way := p.runOn_takeTokens t token
  rw [here_of_acquired authorized.acquired] at way
  cases stayed : p.leavesBeforeAdmission with
  | true => exact ⟨_, _, Gate.runOn_bind_error (by rw [way, stayed]; rfl), .left authorized stayed⟩
  | false =>
    cases answer : (p.charge t).2 with
    | revoked =>
      exact ⟨_, _, Gate.runOn_bind_error (by rw [way, stayed, answer]; rfl), .revoked authorized stayed answer⟩
    | throttled remaining retryAfter =>
      exact ⟨_, _, Gate.runOn_bind_error (by rw [way, stayed, answer]; rfl), .throttled authorized stayed answer⟩
    | admitted remaining =>
      obtain ⟨r, f, rest, course⟩ := course_of_paid ⟨authorized, stayed, answer⟩
      have passes : (Gate.takeTokens p.caller t).runOn (p.authenticated t token) = (.ok (), p.admitted t token) := by
        rw [way, stayed, answer]
        rfl
      exact ⟨r, f, (Gate.runOn_bind_ok passes).trans rest, course⟩

theorem course_of_letIn (letIn : p.LetIn t) :
    ∃ r f, (Gate.authenticate p.outside t p.category >>= fun _ => Gate.takeTokens p.caller t >>= fun _ =>
        Gate.dispatch p.outside p.caller p.category p.request.body).runOn (p.matched t) = (r, f) ∧
      p.Course r f := by
  have way := p.runOn_authenticate t letIn.matched
  cases acquired : p.acquisition with
  | abandoned =>
    rw [acquired] at way
    exact ⟨_, _, Gate.runOn_bind_error way, .uncredited letIn (by rw [acquired]; rfl)⟩
  | failed detail =>
    rw [acquired] at way
    exact ⟨_, _, Gate.runOn_bind_error way, .uncredited letIn (by rw [acquired]; rfl)⟩
  | acquired token =>
    rw [acquired] at way
    cases sendable : (p.request.headers.authorize token t).2 with
    | error e =>
      exact ⟨_, _, Gate.runOn_bind_error (by rw [way]; simp only [sendable]), .unsendable letIn acquired sendable⟩
    | ok u =>
      obtain ⟨r, f, rest, course⟩ := course_of_authorized ⟨letIn, acquired, sendable⟩
      have passes : (Gate.authenticate p.outside t p.category).runOn (p.matched t) =
          (.ok (), p.authenticated t token) := by
        rw [way]
        simp only [sendable]
      exact ⟨r, f, (Gate.runOn_bind_ok passes).trans rest, course⟩

theorem course_of_enabled (found : p.tenant? = some t) (enabled : t.enabled = true) :
    ∃ r f, (Gate.matchRoute t >>= fun category => Gate.authenticate p.outside t category >>= fun _ =>
        Gate.takeTokens p.caller t >>= fun _ =>
        Gate.dispatch p.outside p.caller category p.request.body).runOn (p.resolved t) = (r, f) ∧
      p.Course r f := by
  have way := p.runOn_matchRoute t
  cases matched : p.category.isMatched with
  | false => exact ⟨_, _, Gate.runOn_bind_error (by rw [way, matched]; rfl), .unmatched found enabled matched⟩
  | true =>
    cases allowed : t.backendEnabled p.category with
    | false =>
      exact ⟨_, _, Gate.runOn_bind_error (by rw [way, matched, allowed]; rfl), .barred found enabled matched allowed⟩
    | true =>
      obtain ⟨r, f, rest, course⟩ := course_of_letIn ⟨found, enabled, matched, allowed⟩
      have passes : (Gate.matchRoute t).runOn (p.resolved t) = (.ok p.category, p.matched t) := by
        rw [way, matched, allowed]
        rfl
      exact ⟨r, f, (Gate.runOn_bind_ok passes).trans rest, course⟩

/-- **Every passage takes a course.** -/
theorem course (p : Passage α W) :
    ∃ r f, (Gate.pass p.outside p.caller p.request.body).runOn p.received = (r, f) ∧ p.Course r f := by
  have way := p.runOn_resolveTenant
  cases found : p.tenant? with
  | none => exact ⟨_, _, Gate.runOn_bind_error (by rw [way, found]), .unknown found⟩
  | some t =>
    cases enabled : t.enabled with
    | false => exact ⟨_, _, Gate.runOn_bind_error (by rw [way, found]; simp [enabled]), .disabled found enabled⟩
    | true =>
      obtain ⟨r, f, rest, course⟩ := course_of_enabled found enabled
      have passes : (Gate.resolveTenant : Gate α W Tenant).runOn p.received = (.ok t, p.resolved t) := by
        rw [way, found]
        simp [enabled]
      exact ⟨r, f, (Gate.runOn_bind_ok passes).trans rest, course⟩

/-- **Every handled request takes a course, and is closed at its end.** -/
theorem handled_course (p : Passage α W) : ∃ r f, p.Course r f ∧ p.handled = f.closed r := by
  obtain ⟨r, f, passes, course⟩ := p.course
  refine ⟨r, f, course, ?_⟩
  have received : p.gateway.receive p.world p.now p.requestId p.caller p.request = p.received := rfl
  rw [handled, Gateway.handle_eq, received, passes]
  cases r <;> rfl

end Passage

end TenantGateway
