/-
What every failure reply looks like.

`Response.TellsFailure` is the shape: the status of the failure's code, a JSON body that names the code and the tenant, and the
headers about a retry, the tokens that are left and the request. An error reply has it if what it reports is the limiter's
decision (`ErrorReply.tells`). `failure_replies` says that every request that is not answered with a backend's reply is answered
so: its tokens come from its own decision (`Course.throttled`), whichever way they came.
-/
import Mathlib.Data.List.TakeWhile
import TenantGateway.Proofs.Gateway.Backends
import TenantGateway.Proofs.Gateway.ForwardedHeaders
import TenantGateway.Proofs.Json.ErrorBodies

namespace TenantGateway

/-! ## The shape -/

/-- a response tells of a failure: `decision` is what the limiter decided, if it was asked, and `requestId` the id of the
request, if it has one -/
structure Response.TellsFailure (response : Response) (e : GatewayError) (tenant : String) (decision : Option Admission)
    (requestId : Option String) : Prop where
  status : response.status = e.code.status
  typed : response.headers.values .contentType = [.plain "application/json"]
  body : ∃ text : String, response.body = [.data (Text.bytes text)] ∧
    Json.parse text.toList =
      some (.object [("error".toList, .text e.code.name.toList), ("message".toList, .text e.publicMessage.toList),
        ("tenant".toList, .text tenant.toList)])
  retryable : response.headers.values .retryAfter ≠ [] ↔ e.code.isRetryable = true
  throttled : ∀ remaining seconds, e = .throttled remaining seconds → decision = some (.throttled remaining seconds) ∧
    1 ≤ seconds ∧ response.headers.values .retryAfter = [.ofNat seconds]
  timedOut : ∀ milliseconds, e = .backendTimeout milliseconds → response.headers.values .retryAfter = [.ofNat 1]
  remaining : response.headers.values .rateLimitRemaining = (decision.map fun d => HeaderValue.ofNat d.remaining).toList
  named : response.headers.values .requestId = (requestId.map fun id => HeaderValue.mk (Text.bytes id) false).toList

namespace ErrorReply

variable (r : ErrorReply)

/-! ## The headers of an error reply -/

theorem values_headers (name : HeaderName) :
    r.headers.values name =
      if name = .contentType then [.plain "application/json"]
      else if name = .retryAfter then ((retryAfter? r.error).map HeaderValue.ofNat).toList
      else if name = .rateLimitRemaining then (r.reportedRemaining?.map HeaderValue.ofNat).toList
      else if name = .requestId then (r.requestId.bind HeaderValue.ofText?).toList
      else [] := by
  have empty : Headers.empty.values name = [] := rfl
  simp only [headers, Headers.values_insertIf, Headers.values_insert, empty]
  generalize (retryAfter? r.error).map HeaderValue.ofNat = retry
  generalize r.reportedRemaining?.map HeaderValue.ofNat = remaining
  generalize r.requestId.bind HeaderValue.ofText? = id
  by_cases typed : name = .contentType
  · subst typed
    simp [HeaderName.contentType, HeaderName.retryAfter, HeaderName.rateLimitRemaining, HeaderName.requestId]
  by_cases retried : name = .retryAfter
  · subst retried
    cases retry <;> simp [HeaderName.contentType, HeaderName.retryAfter, HeaderName.rateLimitRemaining, HeaderName.requestId]
  by_cases limited : name = .rateLimitRemaining
  · subst limited
    cases remaining <;>
      simp [HeaderName.contentType, HeaderName.retryAfter, HeaderName.rateLimitRemaining, HeaderName.requestId]
  simp only [typed, retried, limited, if_false]
  cases id <;> rfl

/-- there are seconds to wait exactly for the failures that invite a retry -/
theorem isSome_retryAfter? (e : GatewayError) : (retryAfter? e).isSome = e.code.isRetryable := by
  cases e <;> rfl

/-- **The shape of an error reply.** It reports the limiter's decision, if that is where its tokens come from. -/
theorem tells {r : ErrorReply} {decision : Option Admission} {requestId : Option String}
    (reported : r.reportedRemaining? = decision.map Admission.remaining)
    (decided : ∀ remaining seconds, r.error = .throttled remaining seconds →
      decision = some (.throttled remaining seconds) ∧ 1 ≤ seconds)
    (named : r.requestId.bind HeaderValue.ofText? = requestId.map fun id => HeaderValue.mk (Text.bytes id) false) :
    r.response.TellsFailure r.error r.tenant decision requestId where
  status := rfl
  typed := r.values_headers .contentType
  body := ⟨_, rfl, ErrorBody.parse_json _⟩
  retryable := by
    have values : r.response.headers.values .retryAfter = ((retryAfter? r.error).map HeaderValue.ofNat).toList :=
      r.values_headers .retryAfter
    rw [values, ← isSome_retryAfter?]
    cases retryAfter? r.error <;> simp
  throttled := by
    intro remaining seconds failure
    obtain ⟨decision, wait⟩ := decided remaining seconds failure
    refine ⟨decision, wait, (r.values_headers .retryAfter).trans ?_⟩
    rw [failure]
    rfl
  timedOut := by
    intro milliseconds failure
    refine (r.values_headers .retryAfter).trans ?_
    rw [failure]
    rfl
  remaining := by
    refine (r.values_headers .rateLimitRemaining).trans ?_
    rw [reported, Option.map_map]
    rfl
  named := by
    refine (r.values_headers .requestId).trans ?_
    rw [named]
    rfl

end ErrorReply

/-! ## Where the tokens of a reply come from -/

/-- who is throttled waits for a second at least -/
theorem Limiter.charge_throttled {α : Type} [Quantity α] {l : Limiter α} {authority : Option Snapshot} {t : Tenant}
    {cost : ℕ} {now : ℤ} {remaining seconds : ℕ} (throttled : (l.charge authority t cost now).2 = .throttled remaining seconds) :
    1 ≤ seconds := by
  cases budget : liveBudget authority t with
  | none =>
    rw [charge_of_no_budget budget] at throttled
    cases throttled
  | some n =>
    rw [charge_of_budget budget] at throttled
    obtain ⟨-, rfl⟩ := Bucket.tryTake_throttled throttled
    exact le_max_left 1 _

namespace Passage

variable {α W : Type} {p : Passage α W} {remaining seconds : ℕ}

/-- without a token a request fails because its caller has left or the credential is unavailable -/
theorem acquisition_error {a : Acquisition} {e : GatewayError} (failed : a.result = .error e) :
    e = .clientClosed ∨ ∃ detail, e = .credentialUnavailable detail := by
  cases a with
  | abandoned => exact .inl (Except.error.inj failed).symm
  | failed detail => exact .inr ⟨detail, (Except.error.inj failed).symm⟩
  | acquired token => cases failed

variable [Quantity α]

/-- a request that ends throttled is one that the limiter throttled, and with this answer -/
theorem Course.decision_of_throttled {e : GatewayError} {f : Flight α W} (course : p.Course (.error e) f)
    (http : p.outside.ServesHttp p.gateway.settings.backends) (ends : e = .throttled remaining seconds) :
    p.decision? = some (.throttled remaining seconds) ∧ 1 ≤ seconds := by
  cases course with
  | uncredited letIn failed =>
    rcases acquisition_error failed with rfl | ⟨detail, rfl⟩ <;> cases ends
  | unsendable letIn acquired unsendable =>
    rw [Headers.authorize_eq] at unsendable
    subst ends
    split at unsendable
    · cases unsendable
    · dsimp only at unsendable
      split at unsendable <;> cases unsendable
  | revoked authorized stayed revoked =>
    rw [Registry.revocation_eq] at ends
    split_ifs at ends
  | @throttled t token _ _ authorized stayed throttled =>
    cases ends
    have entitled : (p.charge t).2 ≠ .revoked := by simp [throttled]
    refine ⟨decision?_eq_some_iff.mpr ⟨t, token, authorized, stayed, throttled, throttled ▸ entitled⟩, ?_⟩
    exact Limiter.charge_throttled throttled
  | failed placed stayed failed =>
    rcases outcome_error http placed.served failed with ⟨detail, rfl⟩ | rfl | rfl <;> cases ends
  | _ => cases ends

/-- what a failed request's reply says of its tokens is what the limiter decided -/
theorem reportedRemaining?_told (e : GatewayError)
    (decided : ∀ remaining seconds, e = .throttled remaining seconds → p.decision? = some (.throttled remaining seconds)) :
    ErrorReply.reportedRemaining? ⟨e, p.request.tenantId, some p.requestId, p.decision?.map Admission.remaining⟩ =
      p.decision?.map Admission.remaining := by
  unfold ErrorReply.reportedRemaining?
  cases e with
  | throttled remaining seconds =>
    rw [decided remaining seconds rfl]
    rfl
  | _ => rfl

/-- **A request that fails on its way** is told so. -/
theorem handled_tells (http : p.outside.ServesHttp p.gateway.settings.backends)
    (uuid : p.requestId.toList.all isUuidChar = true) {e : ErrorReply} (failed : p.handled.1 = .error e) :
    e.response.TellsFailure e.error p.request.tenantId p.decision? (some p.requestId) := by
  obtain ⟨r, f, course, handled⟩ := p.handled_course
  rw [handled, course.told] at failed
  cases r with
  | ok answer => cases failed
  | error cause =>
    obtain rfl := Except.error.inj failed
    have decided : ∀ remaining seconds, cause = .throttled remaining seconds → _ :=
      fun remaining seconds ends => course.decision_of_throttled http ends
    refine ErrorReply.tells (reportedRemaining?_told cause fun remaining seconds ends => (decided remaining seconds ends).1)
      decided ?_
    rw [Option.bind_some, HeaderValue.ofText?_uuid uuid]
    rfl

end Passage

/-! ## The body that could not be read -/

/-- reading fails with a request that breaks off or is too large -/
theorem readBody_error {limit : ℕ} {read : List UInt8} {chunks : List Chunk} {e : GatewayError}
    (failed : readBody limit read chunks = .error e) :
    e = .badRequest "request body could not be read" ∨ e = .payloadTooLarge limit := by
  induction chunks generalizing read with
  | nil => cases failed
  | cons chunk rest ih =>
    cases chunk with
    | broken => exact .inl (Except.error.inj failed).symm
    | data bytes =>
      unfold readBody at failed
      split_ifs at failed
      · exact .inr (Except.error.inj failed).symm
      · exact ih failed

namespace TenantSource

/-- a request names no tenant: its path is slashes, or the header that would name one is missing -/
def IsUnnamed (source : TenantSource) (uri : Uri) (h : Headers) : Prop :=
  match source with
  | .pathPrefix => ∀ c ∈ uri.path.toList, c = '/'
  | .header _ => ∀ name, source.headerName? = some name → h.values name = []

theorem extract_of_isUnnamed {source : TenantSource} {uri : Uri} {h : Headers} (unnamed : source.IsUnnamed uri h) :
    (source.extract uri h).1 = "" := by
  cases source with
  | pathPrefix =>
    have none : uri.path.toList.dropWhile (· = '/') = [] := by
      rw [List.dropWhile_eq_nil_iff]
      simpa [IsUnnamed] using unnamed
    simp [extract, splitPath, none, Text.cutAt]
  | header name =>
    have missing : headerId (header name).headerName? h = "" := by
      unfold headerId
      cases found : (header name).headerName? with
      | none => rfl
      | some n => simp [Headers.first?, unnamed n found]
    exact missing

end TenantSource

namespace Gateway

variable {α W : Type} [Quantity α]

omit [Quantity α] in
/-- a request whose body could not be read is told why, and nothing else is known of it -/
theorem inbound_error {g : Gateway α} {r : Request} {e : ErrorReply} (failed : g.inbound r = .error e) :
    e.response.TellsFailure e.error (g.settings.config.gateway.tenantSource.extract r.uri r.headers).1 none none := by
  unfold inbound at failed
  dsimp only at failed
  cases read : readBody g.settings.config.gateway.maxBodyBytes [] r.body with
  | ok body =>
    rw [read] at failed
    cases failed
  | error cause =>
    rw [read] at failed
    obtain rfl := Except.error.inj failed
    rcases readBody_error read with rfl | rfl
    · exact ErrorReply.tells rfl (fun _ _ throttled => by cases throttled) rfl
    · exact ErrorReply.tells rfl (fun _ _ throttled => by cases throttled) rfl

/-- **What every failure reply looks like.** Take any gateway whose backends are reached over HTTP, and any request for a tenant.
Either it is answered with a backend's reply, or the answer tells of a failure, with the status of its code and a JSON body that
names the code and the tenant that the request named, or nobody if it named none. `Retry-After` is there if and only if the code
is retryable: the seconds of the limiter's decision, one at least, for who is throttled, and one second after a timeout. The
tokens left are there if and only if the limiter decided on the request, and then they are those of its decision. The request's
id is there if and only if its body could be read. -/
theorem failure_replies (o : Outside W) (g : Gateway α) (http : o.ServesHttp g.settings.backends) (world : W) (now : ℕ)
    (requestId : String) (uuid : requestId.toList.all isUuidChar = true) (r : Request) :
    let response := (g.proxy o world now requestId r).response
    let source := g.settings.config.gateway.tenantSource
    let tenant := (source.extract r.uri r.headers).1
    (source.IsUnnamed r.uri r.headers → tenant = "") ∧
    match g.inbound r with
    | .error e => response.TellsFailure e.error tenant none none
    | .ok inbound =>
      let p : Passage α W := ⟨o, g, world, now, requestId, { gone := g.closing }, inbound⟩
      match p.handled.1 with
      | .error e => response.TellsFailure e.error tenant p.decision? (some requestId)
      | .ok reply => response = reply.response := by
  intro response source tenant
  refine ⟨TenantSource.extract_of_isUnnamed, ?_⟩
  cases read : g.inbound r with
  | error e =>
    have told : response = e.response := by simp only [response, proxy, read]
    dsimp only
    rw [told]
    exact inbound_error read
  | ok inbound =>
    let p : Passage α W := ⟨o, g, world, now, requestId, { gone := g.closing }, inbound⟩
    change match p.handled.1 with
      | .error e => response.TellsFailure e.error tenant p.decision? (some requestId)
      | .ok reply => response = reply.response
    obtain ⟨-, told⟩ := proxy_of_inbound o world now requestId read
    have told : response = match p.handled.1 with
      | .error e => e.response
      | .ok reply => reply.response := told
    have named : tenant = p.request.tenantId := (inbound_eq read).1.symm
    rw [told, named]
    cases failed : p.handled.1 with
    | ok reply => rfl
    | error e => exact Passage.handled_tells http uuid failed

/-- a world that gives out a token, and whose backend never answers -/
def stalledOutside : Outside Unit where
  fetch := sampleOutside.fetch
  forward w c r :=
    let unreachable : Network Unit := ⟨fun w _ => (none, w)⟩
    ({ answer := ((HttpBackend.make c.name "http://backend").forward unreachable () r).1, delay := none }, w)

/-- **A backend that never answers.** The time is up for the request: it is answered with 504, and told to come back after a
second, what its tenant has left, and its id. -/
theorem failure_replies_stalled :
    let id := "5f0c7d1e-3a52-4b0e-9d64-1c2f8e7a9b30"
    let response := (sample.proxy stalledOutside () 0 id sampleRequest).response
    stalledOutside.ServesHttp sample.settings.backends ∧ id.toList.all isUuidChar = true ∧
      response.status = 504 ∧ response.headers.values .retryAfter = [.ofNat 1] ∧
      response.headers.values .rateLimitRemaining = [.ofNat 999] ∧ response.headers.values .requestId = [.plain id] ∧
      ∃ text : String, response.body = [.data (Text.bytes text)] ∧
        Json.parse text.toList =
          some (.object [("error".toList, .text "backend_timeout".toList),
            ("message".toList, .text "backend did not respond in time".toList), ("tenant".toList, .text "acme".toList)]) := by
  intro id response
  have http : stalledOutside.ServesHttp sample.settings.backends :=
    fun c _ => ⟨.make c.name "http://backend", fun _ _ => ⟨Unit, _, (), rfl⟩⟩
  have uuid : id.toList.all isUuidChar = true := by decide +kernel
  let inbound : Inbound :=
    { tenantId := "acme", method := "POST", path := "/openai/chat"
      headers := (TenantSource.header "X-Tenant-Id").consume sampleRequest.headers, body := [] }
  let p : Passage ℚ Unit := ⟨stalledOutside, sample, (), 0, id, { gone := false }, inbound⟩
  have read : sample.inbound sampleRequest = .ok inbound := by decide +kernel
  have failed : p.handled.1 = .error ⟨.backendTimeout 30000, "acme", some id, some 999⟩ := by decide +kernel
  have decision : p.decision? = some (.admitted 999) := by decide +kernel
  have tenant : (sample.settings.config.gateway.tenantSource.extract sampleRequest.uri sampleRequest.headers).1 = "acme" := by
    decide +kernel
  have told : response.TellsFailure (.backendTimeout 30000) "acme" (some (.admitted 999)) (some id) := by
    have replies := (failure_replies stalledOutside sample http () 0 id uuid sampleRequest).2
    rw [read, tenant] at replies
    change (match p.handled.1 with
      | .error e => response.TellsFailure e.error "acme" p.decision? (some id)
      | .ok reply => response = reply.response) at replies
    rwa [failed, decision] at replies
  exact ⟨http, uuid, told.status, told.timedOut 30000 rfl, told.remaining, told.named, told.body⟩

end Gateway

end TenantGateway
