/-
The order of the gates.

`Checkpoint` names what is checked on the way, `Checkpoint.order` is the order in which it is checked, and `Passage.failure`
says of each checkpoint alone with what a request fails there. `handled_first_failure` says that these three decide what the
caller is told and whether a backend is asked.
-/
import TenantGateway.Proofs.Gateway.Course
import TenantGateway.Proofs.Limiter.Meter

namespace TenantGateway

/-! ## Checkpoints -/

/-- what a request has to pass before a backend is asked -/
inductive Checkpoint where
  /-- the tenant is registered -/
  | registered
  /-- and enabled -/
  | enabled
  /-- the path belongs to a category -/
  | routed
  /-- and the tenant may use its backend -/
  | allowed
  /-- there is a token before the caller leaves -/
  | credentialed
  /-- the token can be sent -/
  | tokenSendable
  /-- the tenant's id can be sent -/
  | idSendable
  /-- the caller has waited for the token -/
  | waiting
  /-- the tenant is still registered and enabled -/
  | entitled
  /-- the tenant's bucket holds the cost -/
  | affordable
  /-- the caller has waited for the limiter -/
  | stillWaiting
  /-- the category has a backend -/
  | served
  deriving DecidableEq

namespace Checkpoint

def order : List Checkpoint :=
  [registered, enabled, routed, allowed, credentialed, tokenSendable, idSendable, waiting, entitled, affordable,
    stillWaiting, served]

/-- the checkpoints before one -/
def earlier (c : Checkpoint) : List Checkpoint :=
  order.takeWhile (· ≠ c)

theorem order_eq (c : Checkpoint) : ∃ later, order = c.earlier ++ c :: later := by
  cases c <;> exact ⟨_, rfl⟩

end Checkpoint

/-- a failure, where a check does not hold -/
def fails (holds : Bool) (e : GatewayError) : Option GatewayError :=
  if holds then none else some e

theorem Registry.revocation_eq (r : Registry) (id : String) :
    r.revocation id = if r.current.contains id then .tenantDisabled id else .unknownTenant id := by
  unfold revocation resolve Snapshot.contains
  cases r.current.get? id <;> rfl

namespace Passage

variable {α W : Type} (p : Passage α W)

/-- the token that the request gets, if it gets one -/
def token? : Option AccessToken :=
  match p.acquisition with
  | .acquired token => some token
  | _ => none

variable [Quantity α]

/-- the failure at a checkpoint, whatever the others come to -/
def failure : Checkpoint → Option GatewayError
  | .registered => fails p.tenant?.isSome (.unknownTenant p.request.tenantId)
  | .enabled => p.tenant?.bind fun t => fails t.enabled (.tenantDisabled t.id)
  | .routed => fails p.category.isMatched (.notFound p.barePath)
  | .allowed => p.tenant?.bind fun t => fails (t.backendEnabled p.category) (.backendDisabled t.id p.category.name)
  | .credentialed =>
    match p.acquisition with
    | .abandoned => some .clientClosed
    | .failed detail => some (.credentialUnavailable detail)
    | .acquired _ => none
  | .tokenSendable =>
    p.token?.bind fun token =>
      fails (HeaderValue.ofText? ("Bearer " ++ token.secret)).isSome
        (.credentialUnavailable "token is not a valid header value")
  | .idSendable =>
    p.tenant?.bind fun t =>
      fails (HeaderValue.ofText? t.id).isSome (.badRequest ("tenant id is not a valid header value: " ++ t.id))
  | .waiting => fails (!p.leavesBeforeAdmission) .clientClosed
  | .entitled =>
    p.tenant?.bind fun t =>
      fails (p.supplied.registry.current.budget? t.id).isSome
        (if p.supplied.registry.current.contains t.id then .tenantDisabled t.id else .unknownTenant t.id)
  | .affordable =>
    p.tenant?.bind fun t =>
      match (p.charge t).2 with
      | .throttled remaining retryAfter => some (.throttled remaining retryAfter)
      | _ => none
  | .stillWaiting => p.tenant?.bind fun t => fails (!p.leavesBeforeDispatch t) .clientClosed
  | .served =>
    fails (p.gateway.settings.backends.contains p.category)
      (.backendUnavailable ("no backend configured for " ++ p.category.name))

/-- the failure at the first checkpoint that is not passed -/
def firstFailure? : Option GatewayError :=
  Checkpoint.order.findSome? p.failure

/-- whether a request gets as far as a checkpoint -/
def reaches (c : Checkpoint) : Bool :=
  c.earlier.all fun before => (p.failure before).isNone

/-- the answer of the limiter, where it admits the request or throttles it -/
def decision? : Option Admission :=
  if p.reaches .affordable then p.tenant?.map fun t => (p.charge t).2 else none

/-- what the caller is told of a request that ends so -/
def told : Except GatewayError Response → Except ErrorReply Reply
  | .ok r =>
    .ok
      { requestId := p.requestId
        status := r.status
        headers := r.headers
        body := r.body
        remaining := (p.decision?.map Admission.remaining).getD 0
        countedFor :=
          if p.tenant?.any (·.policy.streamingMetrics) && r.headers.isEventStream then some p.request.tenantId
          else none }
  | .error e =>
    .error
      { error := e
        tenant := p.request.tenantId
        requestId := some p.requestId
        remaining := p.decision?.map Admission.remaining }

/-- the failure that the caller is told of, if the request fails -/
def toldFailure? : Option GatewayError :=
  match p.handled.1 with
  | .ok _ => none
  | .error reply => some reply.error

variable {p} in
theorem exists_reply_of_toldFailure? {e : GatewayError} (failed : p.toldFailure? = some e) :
    ∃ reply, p.handled.1 = .error reply ∧ reply.error = e := by
  unfold toldFailure? at failed
  cases result : p.handled.1 with
  | ok reply => simp [result] at failed
  | error reply => exact ⟨reply, rfl, by simpa [result] using failed⟩

/-! ## Checkpoints passed on a course -/

variable {p} {t : Tenant} {token : AccessToken} {remaining : ℕ} {e : GatewayError}

theorem firstFailure?_of_reaches {c : Checkpoint} (reaches : p.reaches c = true) (failed : p.failure c = some e) :
    p.firstFailure? = some e := by
  obtain ⟨later, order⟩ := c.order_eq
  have passed : c.earlier.findSome? p.failure = none := by
    rw [List.findSome?_eq_none_iff]
    intro before member
    simpa using List.all_eq_true.mp reaches before member
  rw [firstFailure?, order, List.findSome?_append, passed, List.findSome?_cons, failed]
  rfl

theorem reaches_of_failure {c d : Checkpoint} (earlier : c ∈ d.earlier) (failed : p.failure c = some e) :
    p.reaches d = false := by
  rw [reaches, List.all_eq_false]
  exact ⟨c, earlier, by simp [failed]⟩

/-- passing a checkpoint leads to the next one -/
theorem reaches_next {c d : Checkpoint} (next : d.earlier = c.earlier ++ [c]) (reaches : p.reaches c = true)
    (passed : p.failure c = none) : p.reaches d = true := by
  unfold Passage.reaches at *
  rw [next, List.all_append, reaches]
  simp [passed]

/-- passing the last checkpoint leaves no failure -/
theorem firstFailure?_eq_none (reaches : p.reaches .served = true) (passed : p.failure .served = none) :
    p.firstFailure? = none := by
  rw [firstFailure?, List.findSome?_eq_none_iff]
  intro c member
  have cases : c ∈ Checkpoint.served.earlier ∨ c = .served := by
    cases c <;> simp [Checkpoint.earlier, Checkpoint.order]
  rcases cases with earlier | rfl
  · simpa using List.all_eq_true.mp reaches c earlier
  · exact passed

theorem reaches_enabled (found : p.tenant? = some t) : p.reaches .enabled = true :=
  reaches_next (c := .registered) rfl rfl (by simp [failure, fails, found])

theorem reaches_routed (found : p.tenant? = some t) (enabled : t.enabled = true) : p.reaches .routed = true :=
  reaches_next (c := .enabled) rfl (reaches_enabled found) (by simp [failure, fails, found, enabled])

theorem reaches_allowed (found : p.tenant? = some t) (enabled : t.enabled = true)
    (matched : p.category.isMatched = true) : p.reaches .allowed = true :=
  reaches_next (c := .routed) rfl (reaches_routed found enabled) (by simp [failure, fails, matched])

theorem LetIn.reaches_credentialed (letIn : p.LetIn t) : p.reaches .credentialed = true :=
  reaches_next rfl (reaches_allowed letIn.found letIn.enabled letIn.matched)
    (by simp [failure, fails, letIn.found, letIn.allowed])

theorem LetIn.reaches_tokenSendable (letIn : p.LetIn t) (acquired : p.acquisition = .acquired token) :
    p.reaches .tokenSendable = true :=
  reaches_next rfl letIn.reaches_credentialed (by simp [failure, acquired])

/-- the headers are rewritten where token and id can both be sent, and the failure is that of the first which cannot -/
theorem authorize_failure (found : p.tenant? = some t) (acquired : p.acquisition = .acquired token) :
    (p.request.headers.authorize token t).2 =
      match p.failure .tokenSendable, p.failure .idSendable with
      | some e, _ => .error e
      | none, some e => .error e
      | none, none => .ok () := by
  rw [Headers.authorize_eq]
  cases bearer : HeaderValue.ofText? ("Bearer " ++ token.secret) with
  | none => simp [failure, fails, token?, acquired, bearer]
  | some v =>
    cases id : HeaderValue.ofText? t.id with
    | none => simp [failure, fails, token?, found, acquired, bearer, id]
    | some w => simp [failure, fails, token?, found, acquired, bearer, id]

omit [Quantity α] in
theorem Authorized.token?_eq (authorized : p.Authorized t token) : p.token? = some token := by
  simp [Passage.token?, authorized.acquired]

theorem Authorized.reaches_waiting (authorized : p.Authorized t token) : p.reaches .waiting = true := by
  have sendable := authorized.sendable
  rw [authorize_failure authorized.found authorized.acquired] at sendable
  cases bearer : p.failure .tokenSendable with
  | some e => simp [bearer] at sendable
  | none =>
    cases id : p.failure .idSendable with
    | some e => simp [bearer, id] at sendable
    | none =>
      exact reaches_next rfl (reaches_next rfl (authorized.reaches_tokenSendable authorized.acquired) bearer) id

theorem firstFailure?_of_unsendable (letIn : p.LetIn t) (acquired : p.acquisition = .acquired token)
    (unsendable : (p.request.headers.authorize token t).2 = .error e) : p.firstFailure? = some e := by
  have reaches := letIn.reaches_tokenSendable acquired
  rw [authorize_failure letIn.found acquired] at unsendable
  split at unsendable
  case h_1 bearer =>
    cases unsendable
    exact firstFailure?_of_reaches reaches bearer
  case h_2 bearer id =>
    cases unsendable
    exact firstFailure?_of_reaches (reaches_next (d := .idSendable) rfl reaches bearer) id
  case h_3 => cases unsendable

theorem Authorized.reaches_entitled (authorized : p.Authorized t token) (stayed : p.leavesBeforeAdmission = false) :
    p.reaches .entitled = true :=
  reaches_next rfl authorized.reaches_waiting (by simp [failure, fails, stayed])

/-- the limiter revokes exactly the tenants that have no budget in the registry of now -/
theorem charge_revoked_iff : (p.charge t).2 = .revoked ↔ p.supplied.registry.current.budget? t.id = none := by
  cases budget : p.supplied.registry.current.budget? t.id with
  | none => simp [charge, Limiter.charge_of_no_budget, Limiter.liveBudget, budget]
  | some n =>
    have live : Limiter.liveBudget (some p.supplied.registry.current) t = some n := budget
    rw [charge, Limiter.charge_of_budget live]
    simp [Bucket.tryTake_ne_revoked]

theorem Authorized.reaches_affordable (authorized : p.Authorized t token) (stayed : p.leavesBeforeAdmission = false)
    (entitled : (p.charge t).2 ≠ .revoked) : p.reaches .affordable = true := by
  refine reaches_next rfl (authorized.reaches_entitled stayed) ?_
  have budget := mt charge_revoked_iff.mpr entitled
  simp [failure, fails, authorized.found, Option.isSome_iff_ne_none, budget]

theorem Paid.reaches_affordable (paid : p.Paid t token remaining) : p.reaches .affordable = true :=
  paid.toAuthorized.reaches_affordable paid.stayed (by simp [paid.admitted])

theorem Paid.decision?_eq (paid : p.Paid t token remaining) : p.decision? = some (p.charge t).2 := by
  simp [decision?, paid.reaches_affordable, paid.found]

theorem Paid.reaches_stillWaiting (paid : p.Paid t token remaining) : p.reaches .stillWaiting = true :=
  reaches_next rfl paid.reaches_affordable (by simp [failure, paid.found, paid.admitted])

theorem Paid.reaches_served (paid : p.Paid t token remaining) (remained : p.leavesBeforeDispatch t = false) :
    p.reaches .served = true :=
  reaches_next rfl paid.reaches_stillWaiting (by simp [failure, fails, paid.found, remained])

theorem Placed.firstFailure?_none (placed : p.Placed t token remaining) : p.firstFailure? = none :=
  firstFailure?_eq_none (placed.reaches_served placed.remained) (by rw [failure, placed.served]; rfl)

/-- what a course tells of the checkpoints -/
theorem Course.decided {r : Except GatewayError Response} {f : Flight α W} (course : p.Course r f) :
    (∃ e, p.firstFailure? = some e ∧ r = .error e ∧ f.forwarded = []) ∨
      p.firstFailure? = none ∧ ∃ t token, p.tenant? = some t ∧ p.token? = some token ∧
        if p.caller.leavesAtDispatch then r = .error .clientClosed ∧ f.forwarded = []
        else r = p.outcome (p.outgoing t token) ∧ f.forwarded = [(p.category, p.outgoing t token)] := by
  cases course with
  | unknown none =>
    exact .inl ⟨_, firstFailure?_of_reaches (c := .registered) rfl (by simp [failure, fails, none]), rfl, rfl⟩
  | disabled found disabled =>
    exact .inl ⟨_, firstFailure?_of_reaches (reaches_enabled found) (by simp [failure, fails, found, disabled]), rfl, rfl⟩
  | unmatched found enabled unmatched =>
    exact .inl ⟨_, firstFailure?_of_reaches (reaches_routed found enabled) (by simp [failure, fails, unmatched]), rfl,
      rfl⟩
  | barred found enabled matched barred =>
    exact .inl ⟨_, firstFailure?_of_reaches (reaches_allowed found enabled matched)
      (by simp [failure, fails, found, barred]), rfl, rfl⟩
  | uncredited letIn failed =>
    refine .inl ⟨_, firstFailure?_of_reaches letIn.reaches_credentialed ?_, rfl, rfl⟩
    cases acquired : p.acquisition <;> simp_all [failure, Acquisition.result]
  | unsendable letIn acquired unsendable =>
    exact .inl ⟨_, firstFailure?_of_unsendable letIn acquired unsendable, rfl, rfl⟩
  | left authorized left =>
    exact .inl ⟨_, firstFailure?_of_reaches authorized.reaches_waiting (by simp [failure, fails, left]), rfl, rfl⟩
  | revoked authorized stayed revoked =>
    refine .inl ⟨_, firstFailure?_of_reaches (authorized.reaches_entitled stayed) ?_, rfl, rfl⟩
    simp [failure, fails, authorized.found, charge_revoked_iff.mp revoked, Registry.revocation_eq]
  | throttled authorized stayed throttled =>
    have reaches := authorized.reaches_affordable stayed (by simp [throttled])
    exact .inl ⟨_, firstFailure?_of_reaches reaches (by simp [failure, authorized.found, throttled]), rfl, rfl⟩
  | leftPaid paid left =>
    exact .inl ⟨_, firstFailure?_of_reaches paid.reaches_stillWaiting (by simp [failure, fails, paid.found, left]), rfl,
      rfl⟩
  | unplaced paid remained unserved =>
    refine .inl ⟨_, firstFailure?_of_reaches (paid.reaches_served remained) ?_, rfl, rfl⟩
    rw [failure, unserved]
    rfl
  | leftPlaced placed left =>
    refine .inr ⟨placed.firstFailure?_none, _, _, placed.found, placed.token?_eq, ?_⟩
    rw [if_pos left]
    exact ⟨rfl, rfl⟩
  | failed placed stayed failed =>
    refine .inr ⟨placed.firstFailure?_none, _, _, placed.found, placed.token?_eq, ?_⟩
    rw [if_neg (by simp [stayed])]
    exact ⟨failed.symm, rfl⟩
  | answered placed stayed answered =>
    refine .inr ⟨placed.firstFailure?_none, _, _, placed.found, placed.token?_eq, ?_⟩
    rw [if_neg (by simp [stayed])]
    exact ⟨answered.symm, rfl⟩

theorem failure_of_reaches {c d : Checkpoint} (reaches : p.reaches d = true) (earlier : c ∈ d.earlier) :
    p.failure c = none := by
  simpa using List.all_eq_true.mp reaches c earlier

theorem letIn_of_reaches (reaches : p.reaches .credentialed = true) : ∃ t, p.LetIn t := by
  have registered := failure_of_reaches (c := .registered) reaches (by decide)
  have enabled := failure_of_reaches (c := .enabled) reaches (by decide)
  have routed := failure_of_reaches (c := .routed) reaches (by decide)
  have allowed := failure_of_reaches (c := .allowed) reaches (by decide)
  cases found : p.tenant? with
  | none => simp [failure, fails, found] at registered
  | some t =>
    refine ⟨t, found, ?_, ?_, ?_⟩
    · simpa [failure, fails, found] using enabled
    · simpa [failure, fails] using routed
    · simpa [failure, fails, found] using allowed

theorem reaches_of_subset {c d : Checkpoint} (reaches : p.reaches d = true) (subset : c.earlier ⊆ d.earlier) :
    p.reaches c = true :=
  List.all_eq_true.mpr fun before member => List.all_eq_true.mp reaches before (subset member)

theorem authorized_of_reaches (reaches : p.reaches .waiting = true) : ∃ t token, p.Authorized t token := by
  obtain ⟨t, letIn⟩ := letIn_of_reaches (reaches_of_subset reaches (by decide))
  have credentialed := failure_of_reaches (c := .credentialed) reaches (by decide)
  have bearer := failure_of_reaches (c := .tokenSendable) reaches (by decide)
  have id := failure_of_reaches (c := .idSendable) reaches (by decide)
  cases acquired : p.acquisition with
  | abandoned => simp [failure, acquired] at credentialed
  | failed detail => simp [failure, acquired] at credentialed
  | acquired token =>
    refine ⟨t, token, letIn, acquired, ?_⟩
    rw [authorize_failure letIn.found acquired, bearer, id]

/-- the limiter decides exactly on the requests that are authorized, whose callers wait and whose tenants have a budget -/
theorem decision?_eq_some_iff {answer : Admission} :
    p.decision? = some answer ↔
      ∃ t token, p.Authorized t token ∧ p.leavesBeforeAdmission = false ∧ (p.charge t).2 = answer ∧
        answer ≠ .revoked := by
  constructor
  · intro decided
    have reaches : p.reaches .affordable = true := by
      by_contra stops
      simp [decision?, stops] at decided
    obtain ⟨t, token, authorized⟩ := authorized_of_reaches (reaches_of_subset reaches (by decide))
    have waiting := failure_of_reaches (c := .waiting) reaches (by decide)
    have entitled := failure_of_reaches (c := .entitled) reaches (by decide)
    have same : (p.charge t).2 = answer := by simpa [decision?, reaches, authorized.found] using decided
    refine ⟨t, token, authorized, by simpa [failure, fails] using waiting, same, ?_⟩
    rw [← same, ne_eq, charge_revoked_iff]
    intro none
    simp [failure, fails, authorized.found, none] at entitled
  · rintro ⟨t, token, authorized, stayed, rfl, entitled⟩
    simp [decision?, authorized.reaches_affordable stayed entitled, authorized.found]

/-- the tokens that a decision tells are left, whichever of the two it is -/
theorem remaining_decision?_eq_some_iff {n : ℕ} :
    p.decision?.map Admission.remaining = some n ↔
      p.decision? = some (.admitted n) ∨ ∃ retryAfter, p.decision? = some (.throttled n retryAfter) := by
  rw [Option.map_eq_some_iff]
  constructor
  · rintro ⟨answer, decided, rfl⟩
    cases answer with
    | admitted n => exact .inl decided
    | throttled n retryAfter => exact .inr ⟨retryAfter, decided⟩
    | revoked =>
      obtain ⟨-, -, -, -, -, entitled⟩ := decision?_eq_some_iff.1 decided
      exact absurd rfl entitled
  · rintro (decided | ⟨retryAfter, decided⟩)
    · exact ⟨_, decided, rfl⟩
    · exact ⟨_, decided, rfl⟩

theorem decision?_eq_none
    (revoked : ∀ t token, p.Authorized t token → p.leavesBeforeAdmission = false → (p.charge t).2 = .revoked) :
    p.decision? = none := by
  rw [Option.eq_none_iff_forall_not_mem]
  rintro answer decided
  obtain ⟨t, token, authorized, stayed, rfl, entitled⟩ := decision?_eq_some_iff.mp decided
  exact entitled (revoked t token authorized stayed)

omit [Quantity α] in
theorem LetIn.eq {t' : Tenant} (letIn : p.LetIn t') (found : p.tenant? = some t) : t' = t :=
  Option.some.inj (letIn.found.symm.trans found)

/-- what a request knows of the limiter's answer at its end -/
theorem Course.admission {r : Except GatewayError Response} {f : Flight α W} (course : p.Course r f) :
    f.context.admission = p.decision? := by
  cases course with
  | unknown none =>
    rw [decision?_eq_none fun t token authorized => by simp [authorized.found] at none]
    rfl
  | disabled found disabled =>
    rw [decision?_eq_none fun t token authorized => by
      simp [authorized.eq found ▸ authorized.enabled] at disabled]
    rfl
  | unmatched found enabled unmatched =>
    rw [decision?_eq_none fun t token authorized => by simp [authorized.matched] at unmatched]
    rfl
  | barred found enabled matched barred =>
    rw [decision?_eq_none fun t token authorized => by
      simp [authorized.eq found ▸ authorized.allowed] at barred]
    rfl
  | uncredited letIn failed =>
    rw [decision?_eq_none fun t token authorized => by simp [authorized.acquired, Acquisition.result] at failed]
    rfl
  | unsendable letIn acquired unsendable =>
    rw [decision?_eq_none fun t token authorized => by
      obtain rfl := authorized.eq letIn.found
      obtain rfl := Acquisition.acquired.inj (authorized.acquired.symm.trans acquired)
      simp [authorized.sendable] at unsendable]
    rfl
  | left authorized left =>
    rw [decision?_eq_none fun t token _ stayed => by simp [stayed] at left]
    rfl
  | revoked authorized stayed revoked =>
    rw [decision?_eq_none fun t token authorized' _ => by
      obtain rfl := authorized'.eq authorized.found
      exact revoked]
    rfl
  | @throttled t token remaining retryAfter authorized stayed throttled =>
    have entitled : (p.charge t).2 ≠ .revoked := by simp [throttled]
    rw [decision?_eq_some_iff.mpr ⟨t, token, authorized, stayed, rfl, entitled⟩]
    rfl
  | leftPaid paid left =>
    rw [paid.decision?_eq]
    rfl
  | unplaced paid remained unserved =>
    rw [paid.decision?_eq]
    rfl
  | leftPlaced placed left =>
    rw [placed.toPaid.decision?_eq]
    rfl
  | failed placed stayed failed =>
    rw [placed.toPaid.decision?_eq]
    rfl
  | answered placed stayed answered =>
    rw [placed.toPaid.decision?_eq]
    rfl

/-! ## What the caller is told -/

theorem Course.remaining? {r : Except GatewayError Response} {f : Flight α W} (course : p.Course r f) :
    f.context.remaining? = p.decision?.map Admission.remaining :=
  congrArg _ course.admission

theorem Course.told_error {f : Flight α W} (course : p.Course (.error e) f) :
    .error (f.context.errorReply e) = p.told (.error e) := by
  have known : f.context.tenantId = p.request.tenantId ∧ f.context.requestId = p.requestId := by
    cases course <;> exact ⟨rfl, rfl⟩
  simp [RequestContext.errorReply, told, course.remaining?, known]

theorem Course.told_ok {a : Response} {f : Flight α W} (course : p.Course (.ok a) f) :
    .ok (f.context.reply a) = p.told (.ok a) := by
  have known : f.context.tenantId = p.request.tenantId ∧ f.context.requestId = p.requestId ∧
      f.context.tenant = p.tenant? := by
    cases course with
    | answered placed stayed answered => exact ⟨rfl, rfl, placed.found.symm⟩
  simp [RequestContext.reply, RequestContext.countedFor?, told, course.remaining?, known]

/-- a handled request is told what its course came to -/
theorem Course.told {r : Except GatewayError Response} {f : Flight α W} (course : p.Course r f) :
    (f.closed r).1 = p.told r := by
  cases r with
  | ok a => exact course.told_ok
  | error e => exact course.told_error

/-- **The first failure decides.** A request that fails at a checkpoint is told the failure of the first one, and no
backend is asked. A request that passes them all is told what the one backend it was forwarded to came to, unless its caller
left before that backend was asked. -/
theorem handled_first_failure (p : Passage α W) :
    match p.firstFailure? with
    | some e => p.handled.1 = p.told (.error e) ∧ p.handled.2.forwarded = []
    | none =>
      ∃ t token, p.tenant? = some t ∧ p.token? = some token ∧
        if p.caller.leavesAtDispatch then
          p.handled.1 = p.told (.error .clientClosed) ∧ p.handled.2.forwarded = []
        else
          p.handled.1 = p.told (p.outcome (p.outgoing t token)) ∧
            p.handled.2.forwarded = [(p.category, p.outgoing t token)] := by
  obtain ⟨r, f, course, handled⟩ := p.handled_course
  have told : p.handled.1 = p.told r := by rw [handled, course.told]
  have forwarded : p.handled.2.forwarded = f.forwarded := by rw [handled, Flight.closed_forwarded]
  rw [told, forwarded]
  rcases course.decided with ⟨e, first, rfl, nothing⟩ | ⟨first, t, token, found, acquired, last⟩
  · rw [first]
    exact ⟨rfl, nothing⟩
  · rw [first]
    refine ⟨t, token, found, acquired, ?_⟩
    by_cases left : p.caller.leavesAtDispatch = true
    · rw [if_pos left] at last ⊢
      exact ⟨congrArg p.told last.1, last.2⟩
    · rw [if_neg left] at last ⊢
      exact ⟨congrArg p.told last.1, last.2⟩

end Passage

end TenantGateway
