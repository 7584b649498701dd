/-
What a request leaves behind.

`handled_footprint` says of every handled request which limiter, cache and world it leaves: a request without a decision of the
limiter leaves the limiter to the reloads; one that is turned away early does not even look into the cache; a decision charges
the tenant's bucket once, or not at all, and nothing later takes that back; and a failure tells the tokens that are left if and
only if there was a decision.
-/
import TenantGateway.Proofs.Gateway.ForwardedHeaders

namespace TenantGateway

/-- the flight with another cache -/
def Flight.withCache {α W : Type} (f : Flight α W) (cache : CredentialCache) : Flight α W :=
  { f with gateway := { f.gateway with cache } }

/-- the bucket that an answer leaves of one that was filled up -/
def Bucket.afterAnswer {α : Type} [Quantity α] (b : Bucket α) (cost : ℕ) : Admission → Bucket α
  | .admitted _ => { b with tokens := Quantity.sub b.tokens (Quantity.ofNat cost) }
  | _ => b

theorem Bucket.tryTake_afterAnswer {α : Type} [Quantity α] (b : Bucket α) (cost : ℕ) (now : ℤ) :
    (b.tryTake cost now).1 = (b.refill now).afterAnswer cost (b.tryTake cost now).2 := by
  unfold tryTake
  dsimp only
  split_ifs <;> rfl

namespace Passage

variable {α W : Type} (p : Passage α W)

/-- the same request, where the cache holds something else and the world outside does something else -/
def amid (o : Outside W) (cache : CredentialCache) : Passage α W :=
  { p with outside := o, gateway := { p.gateway with cache } }

/-! ## Requests that are turned away before a token is needed -/

/-- how a request ends that is not let in, or whose caller has already left -/
def turnedAway : Except GatewayError Response × Flight α W :=
  match p.tenant? with
  | none => (.error (.unknownTenant p.request.tenantId), p.received)
  | some t =>
    if t.enabled then
      if p.category.isMatched then
        if t.backendEnabled p.category then (.error .clientClosed, p.matched t)
        else (.error (.backendDisabled t.id p.category.name), p.matched t)
      else (.error (.notFound p.barePath), p.classified t)
    else (.error (.tenantDisabled t.id), p.named t)

theorem turnedAway_amid (o : Outside W) (cache : CredentialCache) :
    (p.amid o cache).turnedAway = (p.turnedAway.1, p.turnedAway.2.withCache cache) := by
  have tenant : (p.amid o cache).tenant? = p.tenant? := rfl
  have category : (p.amid o cache).category = p.category := rfl
  unfold turnedAway
  rw [tenant, category]
  cases p.tenant? with
  | none => rfl
  | some t =>
    dsimp only
    split_ifs <;> rfl

theorem turnedAway_keeps :
    p.turnedAway.2.gateway = p.gateway ∧ p.turnedAway.2.world = p.world := by
  unfold turnedAway
  cases p.tenant? with
  | none => exact ⟨rfl, rfl⟩
  | some t =>
    dsimp only
    split_ifs <;> exact ⟨rfl, rfl⟩

variable [Quantity α]

/-- the configurations that are loaded before the limiter is asked -/
def earlyLoads : List Config := if p.reaches .credentialed then p.tokenLoads else []

/-- the configurations that are loaded while a backend is asked -/
def lateLoads : List Config := p.handled.2.forwarded.flatMap fun (_, r) => (p.backendCall r).reloads

variable {p} {t : Tenant}

theorem Course.turnedAway {r : Except GatewayError Response} {f : Flight α W} (course : p.Course r f)
    (early : p.reaches .credentialed = false ∨ p.caller.gone = true) : (r, f) = p.turnedAway := by
  have out {t : Tenant} {token : AccessToken} : ¬ p.Authorized t token := by
    intro authorized
    rcases early with shut | gone
    · simp [authorized.reaches_credentialed] at shut
    · simp [here_of_acquired authorized.acquired] at gone
  cases course with
  | unknown none => simp [Passage.turnedAway, none]
  | disabled found disabled => simp [Passage.turnedAway, found, disabled]
  | unmatched found enabled unmatched => simp [Passage.turnedAway, found, enabled, unmatched]
  | barred found enabled matched barred => simp [Passage.turnedAway, found, enabled, matched, barred]
  | uncredited letIn failed =>
    have gone : p.caller.gone = true := by simpa [letIn.reaches_credentialed] using early
    have abandoned : p.acquisition = .abandoned := by simp [acquisition, gone]
    rw [abandoned] at failed
    cases failed
    simp [Passage.turnedAway, letIn.found, letIn.enabled, letIn.matched, letIn.allowed, waited_of_gone p _ gone]
  | unsendable letIn acquired unsendable =>
    have gone : p.caller.gone = true := by simpa [letIn.reaches_credentialed] using early
    simp [here_of_acquired acquired] at gone
  | left authorized => exact absurd authorized out
  | revoked authorized => exact absurd authorized out
  | throttled authorized => exact absurd authorized out
  | leftPaid paid => exact absurd paid.toAuthorized out
  | unplaced paid => exact absurd paid.toAuthorized out
  | leftPlaced placed => exact absurd placed.toAuthorized out
  | failed placed => exact absurd placed.toAuthorized out
  | answered placed => exact absurd placed.toAuthorized out

theorem handled_of_early (early : p.reaches .credentialed = false ∨ p.caller.gone = true) :
    p.handled = p.turnedAway.2.closed p.turnedAway.1 := by
  obtain ⟨r, f, course, handled⟩ := p.handled_course
  rw [handled, ← course.turnedAway early]

/-- a request that is turned away early is told the same, whatever the cache holds -/
theorem handled_amid (early : p.reaches .credentialed = false ∨ p.caller.gone = true) (o : Outside W)
    (cache : CredentialCache) :
    (p.amid o cache).handled = (p.handled.1, p.handled.2.withCache cache) := by
  have early' : (p.amid o cache).reaches .credentialed = false ∨ (p.amid o cache).caller.gone = true := early
  rw [handled_of_early early, handled_of_early early', turnedAway_amid]
  cases p.turnedAway.1 <;> rfl

/-! ## The limiter at the end -/

theorem earlyLoads_of_failure {c : Checkpoint} {e : GatewayError} (earlier : c ∈ Checkpoint.credentialed.earlier)
    (failed : p.failure c = some e) : p.earlyLoads = [] := by
  rw [earlyLoads, reaches_of_failure earlier failed]
  rfl

/-- what a request that is let in finds at the limiter -/
theorem LetIn.supplied_eq (letIn : p.LetIn t) :
    p.supplied.registry = (p.gateway.reloadAll p.earlyLoads).registry ∧
      p.supplied.limiter = (p.gateway.reloadAll p.earlyLoads).limiter := by
  rw [earlyLoads, letIn.reaches_credentialed]
  exact ⟨rfl, rfl⟩

theorem LetIn.charged_eq (letIn : p.LetIn t) :
    p.charged t =
      { { p.gateway.reloadAll p.earlyLoads with limiter := (p.charge t).1 } with cache := p.tokenCache } := by
  rw [earlyLoads, letIn.reaches_credentialed]
  rfl

theorem charge_of_revoked (revoked : (p.charge t).2 = .revoked) : (p.charge t).1 = p.supplied.limiter := by
  have live : Limiter.liveBudget (some p.supplied.registry.current) t = none := charge_revoked_iff.mp revoked
  rw [charge, Limiter.charge_of_no_budget live]

theorem limiter_forwarded (token : AccessToken) :
    (p.forwarded t token).gateway.limiter =
      ((p.charged t).reloadAll
        ((p.forwarded t token).forwarded.flatMap fun (_, r) => (p.backendCall r).reloads)).limiter := by
  have one : ((p.forwarded t token).forwarded.flatMap fun (_, r) => (p.backendCall r).reloads) =
      (p.backendCall (p.outgoing t token)).reloads := List.append_nil _
  rw [one]
  rfl

/-- a decision moves the tenant's own bucket -/
theorem charge_of_decision (decided : p.decision? = some (p.charge t).2) :
    ∃ n, p.supplied.registry.current.budget? t.id = some n ∧
      (p.charge t).1.buckets.get? t.id =
        some (((p.supplied.limiter.purse t.id n p.tokenInstant).refill p.tokenInstant).afterAnswer
          p.gateway.settings.requestCost (p.charge t).2) ∧
      ∀ id, id ≠ t.id → (p.charge t).1.buckets.get? id = p.supplied.limiter.buckets.get? id := by
  obtain ⟨t', token, authorized, -, -, entitled⟩ := decision?_eq_some_iff.mp decided
  obtain ⟨n, budget⟩ := Option.ne_none_iff_exists'.mp (mt charge_revoked_iff.mpr entitled)
  have live : Limiter.liveBudget (some p.supplied.registry.current) t = some n := budget
  have charge : p.charge t = _ := Limiter.charge_of_budget live _ _ _
  refine ⟨n, budget, ?_, ?_⟩
  · rw [charge, Table.get?_insert, if_pos rfl, Bucket.tryTake_afterAnswer]
  · intro id other
    rw [charge, Table.get?_insert, if_neg other]

/-- the limiter that a course leaves, which the reloads alone have changed, or a charge and reloads after it -/
theorem Course.limiter {r : Except GatewayError Response} {f : Flight α W} (course : p.Course r f) :
    (p.decision? = none ∧ f.gateway.limiter = (p.gateway.reloadAll p.earlyLoads).limiter) ∨
      ∃ t, p.LetIn t ∧ p.decision? = some (p.charge t).2 ∧
        f.gateway.limiter =
          ((p.charged t).reloadAll (f.forwarded.flatMap fun (_, r) => (p.backendCall r).reloads)).limiter := by
  have decided := course.admission.symm
  cases course with
  | unknown none =>
    rw [earlyLoads_of_failure (c := .registered) (by decide) (by simp [failure, fails, none]; rfl)]
    exact .inl ⟨decided, rfl⟩
  | disabled found disabled =>
    rw [earlyLoads_of_failure (c := .enabled) (by decide) (by simp [failure, fails, found, disabled]; rfl)]
    exact .inl ⟨decided, rfl⟩
  | unmatched found enabled unmatched =>
    rw [earlyLoads_of_failure (c := .routed) (by decide) (by simp [failure, fails, unmatched]; rfl)]
    exact .inl ⟨decided, rfl⟩
  | barred found enabled matched barred =>
    rw [earlyLoads_of_failure (c := .allowed) (by decide) (by simp [failure, fails, found, barred]; rfl)]
    exact .inl ⟨decided, rfl⟩
  | uncredited letIn failed => exact .inl ⟨decided, letIn.supplied_eq.2⟩
  | unsendable letIn acquired unsendable => exact .inl ⟨decided, letIn.supplied_eq.2⟩
  | left authorized left => exact .inl ⟨decided, authorized.supplied_eq.2⟩
  | revoked authorized stayed revoked =>
    exact .inl ⟨decided, (charge_of_revoked revoked).trans authorized.supplied_eq.2⟩
  | throttled authorized stayed throttled => exact .inr ⟨_, authorized.toLetIn, decided, rfl⟩
  | leftPaid paid left => exact .inr ⟨_, paid.toLetIn, decided, rfl⟩
  | unplaced paid remained unserved => exact .inr ⟨_, paid.toLetIn, decided, rfl⟩
  | leftPlaced placed left => exact .inr ⟨_, placed.toLetIn, decided, rfl⟩
  | failed placed stayed failed => exact .inr ⟨_, placed.toLetIn, decided, limiter_forwarded _⟩
  | answered placed stayed answered => exact .inr ⟨_, placed.toLetIn, decided, limiter_forwarded _⟩

/-- **What a request leaves behind.** Where the limiter did not decide, it is what the reloads alone made of it. Where the
request was turned away early, neither the cache nor the world outside took part. Where the limiter decided, the bucket of the
tenant was filled up and the cost was taken from it once, if the request was admitted, and only reloads came after that. A
failure tells that so many tokens are left, exactly if the request was admitted or throttled with so many left; where there was no
decision it tells of none. -/
theorem handled_footprint (p : Passage α W) :
    let before := p.gateway.reloadAll p.earlyLoads
    let after := p.handled.2
    (p.decision? = none → after.gateway.limiter = before.limiter) ∧
    (p.reaches .credentialed = false ∨ p.caller.gone = true →
      after.gateway.cache = p.gateway.cache ∧ after.world = p.world ∧
        ∀ (o : Outside W) (cache : CredentialCache), (p.amid o cache).handled = (p.handled.1, after.withCache cache)) ∧
    (∀ answer, p.decision? = some answer →
      ∃ (t : Tenant) (n : ℕ) (charged : Limiter α),
        p.tenant? = some t ∧ before.registry.current.budget? t.id = some n ∧
        p.charge t = (charged, answer) ∧ answer ≠ .revoked ∧
        charged.buckets.get? t.id =
          some (((before.limiter.purse t.id n p.tokenInstant).refill p.tokenInstant).afterAnswer
            p.gateway.settings.requestCost answer) ∧
        (∀ id, id ≠ t.id → charged.buckets.get? id = before.limiter.buckets.get? id) ∧
        after.gateway.limiter = ({ before with limiter := charged }.reloadAll p.lateLoads).limiter) ∧
    ∀ reply, p.handled.1 = .error reply → ∀ left,
      reply.remaining = some left ↔
        p.decision? = some (.admitted left) ∨ ∃ retryAfter, p.decision? = some (.throttled left retryAfter) := by
  obtain ⟨r, f, course, handled⟩ := p.handled_course
  have limiter : p.handled.2.gateway.limiter = f.gateway.limiter := by rw [handled, Flight.closed_limiter]
  have sent : p.handled.2.forwarded = f.forwarded := by rw [handled, Flight.closed_forwarded]
  refine ⟨?_, ?_, ?_, ?_⟩
  · intro undecided
    rcases course.limiter with ⟨-, same⟩ | ⟨t, -, decided, -⟩
    · rw [limiter, same]
    · simp [undecided] at decided
  · intro early
    have closed := handled_of_early early
    refine ⟨?_, ?_, handled_amid early⟩
    · rw [closed, Flight.closed_cache, p.turnedAway_keeps.1]
    · rw [closed, Flight.closed_world, p.turnedAway_keeps.2]
  · intro answer decided
    rcases course.limiter with ⟨undecided, -⟩ | ⟨t, letIn, charge, left⟩
    · simp [undecided] at decided
    · have same : (p.charge t).2 = answer := Option.some.inj (charge.symm.trans decided)
      obtain ⟨n, budget, own, others⟩ := charge_of_decision charge
      obtain ⟨-, -, -, -, -, entitled⟩ := decision?_eq_some_iff.mp decided
      refine ⟨t, n, (p.charge t).1, letIn.found, ?_, by rw [← same], entitled, ?_, ?_, ?_⟩
      · rw [← letIn.supplied_eq.1, budget]
      · rw [← letIn.supplied_eq.2, own, same]
      · rw [← letIn.supplied_eq.2]
        exact others
      · rw [limiter, left, lateLoads, sent, letIn.charged_eq, Gateway.reloadAll_withCache]
  · intro reply told left
    rw [handled, course.told] at told
    cases r with
    | ok a => cases told
    | error e =>
      cases told
      exact remaining_decision?_eq_some_iff

/-- a request of this instant, whose backend fails -/
def costly (gateway : Gateway ℚ) (tenantId : String) (now : ℕ) : Passage ℚ Unit :=
  { outside :=
      { fetch := Gateway.sampleOutside.fetch
        forward := fun w _ _ => ({ answer := .error (.internal "backend") }, w) }
    gateway
    world := ()
    now
    requestId := "id"
    caller := {}
    request := ⟨tenantId, "POST", "/openai/chat", .empty, []⟩ }

/-- a gateway where every request costs 600 tokens, and its tenant has 1000 of them a minute -/
def costlyStart : Gateway ℚ :=
  { Gateway.sample with
    settings :=
      { Gateway.sample.settings with
        config :=
          { Gateway.sample.settings.config with
            gateway := { Gateway.sample.settings.config.gateway with requestCost := 600 } } } }

/-- the first request, -/
def costlyFirst : Passage ℚ Unit := costly costlyStart "acme" 0

/-- the same again three seconds later, -/
def costlySecond : Passage ℚ Unit := costly costlyFirst.handled.2.gateway "acme" 3000000000

/-- and one of nobody, another three seconds later -/
def costlyNobody : Passage ℚ Unit := costly costlySecond.handled.2.gateway "nobody" 6000000000

/-- **Admitted, throttled, unknown.** The first request is admitted, and its failure tells of the 400 tokens that its bucket has left. The
second one finds 50 more and is throttled, which takes nothing from the 450. The one of nobody is told of no tokens, and leaves the
limiter alone. -/
theorem handled_footprint_costly :
    (∃ e, costlyFirst.handled.1 = .error e ∧ e.error = .internal "backend" ∧ e.remaining = some 400) ∧
      (costlyFirst.handled.2.gateway.limiter.buckets.get? "acme").map (·.tokens) = some 400 ∧
      (∃ e, costlySecond.handled.1 = .error e ∧ e.error = .throttled 450 9 ∧ e.remaining = some 450) ∧
      (costlySecond.handled.2.gateway.limiter.buckets.get? "acme").map (·.tokens) = some 450 ∧
      (∃ e, costlyNobody.handled.1 = .error e ∧ e.error = .unknownTenant "nobody" ∧ e.remaining = none) ∧
      costlyNobody.handled.2.gateway.limiter = costlySecond.handled.2.gateway.limiter := by
  have admitted : costlyFirst.decision? = some (.admitted 400) := by decide +kernel
  have throttled : costlySecond.decision? = some (.throttled 450 9) := by decide +kernel
  have undecided : costlyNobody.decision? = none := by decide +kernel
  have failure : costlyFirst.toldFailure? = some (.internal "backend") := by decide +kernel
  have failure' : costlySecond.toldFailure? = some (.throttled 450 9) := by decide +kernel
  have failure'' : costlyNobody.toldFailure? = some (.unknownTenant "nobody") := by decide +kernel
  obtain ⟨first, failed, cause⟩ := exists_reply_of_toldFailure? failure
  obtain ⟨second, failed', cause'⟩ := exists_reply_of_toldFailure? failure'
  obtain ⟨nobody, failed'', cause''⟩ := exists_reply_of_toldFailure? failure''
  obtain ⟨-, -, -, told⟩ := handled_footprint costlyFirst
  obtain ⟨-, -, -, told'⟩ := handled_footprint costlySecond
  obtain ⟨kept, -, -, told''⟩ := handled_footprint costlyNobody
  have unloaded : costlyNobody.earlyLoads = [] := by decide +kernel
  have untold : nobody.remaining = none := by
    rw [Option.eq_none_iff_forall_ne_some]
    intro n left
    simpa [undecided] using (told'' nobody failed'' n).1 left
  refine ⟨⟨first, failed, cause, ?_⟩, ?_, ⟨second, failed', cause', ?_⟩, ?_, ⟨nobody, failed'', cause'', untold⟩, ?_⟩
  · exact (told first failed 400).2 (.inl admitted)
  · decide +kernel
  · exact (told' second failed' 450).2 (.inr ⟨9, throttled⟩)
  · decide +kernel
  · rw [kept undecided, unloaded, Gateway.reloadAll, List.foldl_nil, costlyNobody, costly]

end Passage

end TenantGateway
