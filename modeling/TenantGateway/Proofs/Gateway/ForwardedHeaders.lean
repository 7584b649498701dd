/-
The headers that reach a backend.

`forwarded_headers` says of every request that the gateway forwards what each header holds when it is handed to the HTTP
client: three are the gateway's own, some are dropped, and all others are the caller's.
-/
import TenantGateway.Gateway.Backend
import TenantGateway.Gateway.Edge
import TenantGateway.Proofs.Gateway.Order
import TenantGateway.Proofs.Http.Headers

namespace TenantGateway

/-! ## The steps that change headers -/

/-- the characters of a UUID in text -/
def isUuidChar (c : Char) : Bool :=
  "0123456789abcdef-".toList.contains c

theorem HeaderValue.ofText?_eq_some {s : String} {v : HeaderValue} (h : ofText? s = some v) :
    v = { bytes := Text.bytes s } := by
  unfold ofText? ofBytes? at h
  split at h
  · cases h
    rfl
  · cases h

/-- a UUID can be sent -/
theorem HeaderValue.ofText?_uuid {s : String} (uuid : s.toList.all isUuidChar = true) :
    ofText? s = some { bytes := Text.bytes s } := by
  have allowed : ("0123456789abcdef-".toList.all fun c => (String.utf8EncodeChar c).all isAllowed) = true := by
    decide
  have all : (Text.bytes s).all isAllowed = true := by
    rw [Text.bytes, List.all_flatMap, List.all_eq_true]
    intro c member
    exact List.all_eq_true.mp allowed c (List.contains_iff_mem.mp (List.all_eq_true.mp uuid c member))
  rw [ofText?, ofBytes?, if_pos all]

theorem TenantSource.values_consume (source : TenantSource) (h : Headers) (name : HeaderName) :
    (source.consume h).values name = if source.headerName? = some name then [] else h.values name := by
  unfold consume
  cases source.headerName? with
  | none => rfl
  | some n =>
    rw [Headers.values_remove]
    by_cases same : name = n
    · simp [same]
    · have other : ¬ n = name := fun e => same e.symm
      simp [same, other]

namespace Headers

theorem values_authorize {h : Headers} {token : AccessToken} {t : Tenant} (sendable : (h.authorize token t).2 = .ok ())
    (name : HeaderName) :
    (h.authorize token t).1.values name =
      if name = .tenantId then [{ bytes := Text.bytes t.id }]
      else if name = .authorization then [{ bytes := Text.bytes ("Bearer " ++ token.secret), sensitive := true }]
      else if name = .apiKey then []
      else h.values name := by
  rw [authorize_eq] at sendable ⊢
  cases bearer : HeaderValue.ofText? ("Bearer " ++ token.secret) with
  | none => simp [bearer] at sendable
  | some v =>
    cases id : HeaderValue.ofText? t.id with
    | none => simp [bearer, id] at sendable
    | some w =>
      cases HeaderValue.ofText?_eq_some bearer
      cases HeaderValue.ofText?_eq_some id
      simp only [values_insert, values_remove]

end Headers

/-- the client takes over the headers it is given, and adds none of its own -/
theorem HttpBackend.request_headers {b : HttpBackend} {r : ForwardRequest} {w : WireRequest}
    (authorized : r.headers.stripHopByHop.values .authorization ≠ []) (made : b.request r = .ok w) :
    w.headers = r.headers.stripHopByHop := by
  unfold request at made
  split at made
  · cases made
  · cases made
    refine Headers.replace_eq _ fun f member => ?_
    have named : f.1 = .authorization := by
      unfold Client.request at member
      split at member
      · simp [Headers.insert, Headers.append, Headers.remove, Headers.empty] at member
        simp [member]
      · simp [Headers.empty] at member
    rw [named]
    exact Headers.contains_of_values _ authorized

namespace Passage

variable {α W : Type} [Quantity α] {p : Passage α W}

/-- only a request that has passed all the gates is forwarded -/
theorem Course.placed_of_forwarded {r : Except GatewayError Response} {f : Flight α W} (course : p.Course r f)
    {c : Category} {sent : ForwardRequest} (member : (c, sent) ∈ f.forwarded) :
    ∃ t token remaining, p.Placed t token remaining ∧ sent = p.outgoing t token := by
  cases course with
  | failed placed stayed failed =>
    cases List.mem_singleton.mp member
    exact ⟨_, _, _, placed, rfl⟩
  | answered placed stayed answered =>
    cases List.mem_singleton.mp member
    exact ⟨_, _, _, placed, rfl⟩
  | _ => cases member

omit [Quantity α] in
/-- the headers of a forwarded request when it is handed to the client -/
theorem Authorized.values_given {t : Tenant} {token : AccessToken} {v : HeaderValue}
    (authorized : p.Authorized t token) (named : HeaderValue.ofText? p.requestId = some v) (name : HeaderName) :
    (p.outgoing t token).headers.stripHopByHop.values name =
      if name ∈ HeaderName.hopByHop then []
      else if name = .requestId then [v]
      else if name = .tenantId then [{ bytes := Text.bytes t.id }]
      else if name = .authorization then [{ bytes := Text.bytes ("Bearer " ++ token.secret), sensitive := true }]
      else if name = .apiKey then []
      else p.request.headers.values name := by
  rw [Headers.values_stripHopByHop, outgoing, named, Headers.values_insertIf_some,
    Headers.values_authorize authorized.sendable]

/-- every answer to a handled request names it -/
theorem requestId_told (p : Passage α W) {v : HeaderValue} (named : HeaderValue.ofText? p.requestId = some v)
    (r : Except GatewayError Response) :
    (match p.told r with
      | .error e => e.response
      | .ok reply => reply.response).headers.values .requestId = [v] := by
  cases r with
  | ok a => simp [told, Reply.response, named, Headers.values_insertIf_some]
  | error e => simp [told, ErrorReply.response, ErrorReply.headers, named, Headers.values_insertIf_some]

end Passage

namespace Gateway

variable {α W : Type} [Quantity α]

/-- what a request whose body was read comes to -/
theorem proxy_of_inbound (o : Outside W) {g : Gateway α} (world : W) (now : ℕ) (requestId : String) {r : Request}
    {inbound : Inbound} (read : g.inbound r = .ok inbound) :
    let p : Passage α W := ⟨o, g, world, now, requestId, { gone := g.closing }, inbound⟩
    (g.proxy o world now requestId r).forwarded = p.handled.2.forwarded ∧
      (g.proxy o world now requestId r).response =
        match p.handled.1 with
        | .error e => e.response
        | .ok reply => reply.response := by
  intro p
  have handled : g.handle o world now requestId { gone := g.closing } inbound = p.handled := rfl
  unfold proxy
  rw [read]
  simp only [handled]
  cases p.handled.1 <;> exact ⟨rfl, rfl⟩

/-- any request but an operator's is a tenant's -/
theorem serve_of_tenant (o : Outside W) (g : Gateway α) (world : W) (now : ℕ) (requestId : String) (r : Request)
    (other : OperatorPage.ofPath? r.uri.path = none) :
    (g.serve o world now requestId r).forwarded = (g.proxy o world now requestId r).forwarded ∧
      (g.serve o world now requestId r).response =
        if r.method = headMethod then (g.proxy o world now requestId r).response.headOnly
        else (g.proxy o world now requestId r).response := by
  unfold serve
  rw [other]
  dsimp only
  split_ifs <;> exact ⟨rfl, rfl⟩

omit [Quantity α] in
theorem inbound_eq {g : Gateway α} {r : Request} {inbound : Inbound} (read : g.inbound r = .ok inbound) :
    inbound.tenantId = (g.settings.config.gateway.tenantSource.extract r.uri r.headers).1 ∧
      inbound.headers = g.settings.config.gateway.tenantSource.consume r.headers := by
  unfold Gateway.inbound at read
  dsimp only at read
  split at read
  · cases read
  · cases read
    exact ⟨rfl, rfl⟩

/-- **The headers that reach a backend.** Whatever fields a caller sends, in whatever case, the request handed to the HTTP
client has the token that was acquired for it as its one authorization, the resolved tenant's id as its one `x-tenant-id` and
the id that the answer reports as its one `x-request-id`. Keys, the headers of a single hop and the header that named the
tenant are gone, and every other header has the caller's values in the caller's order. -/
theorem forwarded_headers (o : Outside W) (g : Gateway α) (world : W) (now : ℕ) (requestId : String)
    (uuid : requestId.toList.all isUuidChar = true) (r : Request) (fields : List (String × HeaderValue))
    (spelled : Headers.ofFields? fields = some r.headers) (c : Category) (sent : ForwardRequest)
    (forwarded : (c, sent) ∈ (g.proxy o world now requestId r).forwarded) :
    ∃ (inbound : Inbound) (t : Tenant) (token : AccessToken),
      g.inbound r = .ok inbound ∧
      let p : Passage α W := ⟨o, g, world, now, requestId, { gone := g.closing }, inbound⟩
      let source := g.settings.config.gateway.tenantSource
      let given := sent.headers.stripHopByHop
      g.registry.current.get? (source.extract r.uri r.headers).1 = some t ∧
      p.token? = some token ∧
      (∀ (b : HttpBackend) (w : WireRequest), b.request sent = .ok w → w.headers = given) ∧
      given.values .authorization = [{ bytes := Text.bytes ("Bearer " ++ token.secret), sensitive := true }] ∧
      given.values .tenantId = [{ bytes := Text.bytes t.id }] ∧
      given.values .requestId = [{ bytes := Text.bytes requestId }] ∧
      (g.proxy o world now requestId r).response.headers.values .requestId = [{ bytes := Text.bytes requestId }] ∧
      ∀ name : HeaderName, name ≠ .authorization → name ≠ .tenantId → name ≠ .requestId →
        given.values name =
          if name = .apiKey ∨ name ∈ HeaderName.hopByHop ∨ source.headerName? = some name then []
          else (fields.filter fun f => name.isSpelled f.1).map (·.2) := by
  cases read : g.inbound r with
  | error e => simp [proxy, read] at forwarded
  | ok inbound =>
    obtain ⟨sends, response⟩ := proxy_of_inbound o world now requestId read
    obtain ⟨named, consumed⟩ := inbound_eq read
    have id := HeaderValue.ofText?_uuid uuid
    let p : Passage α W := ⟨o, g, world, now, requestId, { gone := g.closing }, inbound⟩
    obtain ⟨result, f, course, handled⟩ := p.handled_course
    rw [sends, handled, Flight.closed_forwarded] at forwarded
    obtain ⟨t, token, remaining, placed, rfl⟩ := course.placed_of_forwarded forwarded
    have given := placed.toAuthorized.values_given id
    have authorization : (p.outgoing t token).headers.stripHopByHop.values .authorization =
        [{ bytes := Text.bytes ("Bearer " ++ token.secret), sensitive := true }] := by
      rw [given]
      rfl
    refine ⟨inbound, t, token, rfl, ?_, placed.token?_eq, ?_, authorization, ?_, ?_, ?_, ?_⟩
    · rw [← named]
      exact placed.found
    · intro b w made
      exact HttpBackend.request_headers (by simp [authorization]) made
    · rw [given]
      rfl
    · rw [given]
      rfl
    · rw [response, handled, course.told]
      exact p.requestId_told id result
    · intro name authorization tenantId requestId
      rw [given, if_neg requestId, if_neg tenantId, if_neg authorization]
      have caller : p.request.headers.values name = _ :=
        (congrArg (Headers.values · name) consumed).trans (TenantSource.values_consume _ _ _)
      rw [caller, Headers.values_ofFields? spelled]
      split_ifs <;> simp_all

/-- a gateway with one tenant, which is named in a header that the gateway sets itself -/
def sample : Gateway ℚ :=
  { settings :=
      { config := { version := 1, gateway := { tenantSource := .header "X-Tenant-Id" } }
        routes := .standard
        source := "static"
        backends := [.openai] }
    registry := ⟨⟨[.ofConfig { id := "acme" }], 1⟩, 1⟩
    limiter := .empty
    cache := .empty 0
    diagnostics := .start []
    closing := false }

/-- a world that gives out a token and answers every request -/
def sampleOutside : Outside Unit where
  fetch w _ _ := ({ answer := .ok ⟨"secret", 60⟩ }, w)
  forward w _ _ := ({ answer := .ok ⟨200, .empty, []⟩ }, w)

/-- a repeated header, a key, two headers of a single hop and two forgeries, in all sorts of capitals -/
def sampleFields : List (String × HeaderValue) :=
  [("Cookie", .plain "a"), ("X-TENANT-id", .plain "acme"), ("AUTHORIZATION", .plain "Basic forged"),
    ("Api-Key", .plain "k"), ("x-request-id", .plain "forged"), ("Proxy-Authorization", .plain "Basic proxy"),
    ("TE", .plain "trailers"), ("COOKIE", .plain "b")]

def sampleRequest : Request :=
  { method := "POST"
    uri := { path := "/openai/chat", query := none }
    headers := (Headers.ofFields? sampleFields).getD .empty
    body := [] }

/-- **Forged headers.** A caller who forges an authorization and a request's id reaches the backend with neither, and with no header that
was for a single hop. -/
theorem forwarded_headers_forged :
    ∃ c sent,
      (c, sent) ∈ (sample.proxy sampleOutside () 0 "5f0c7d1e-3a52-4b0e-9d64-1c2f8e7a9b30" sampleRequest).forwarded ∧
      sent.headers.stripHopByHop.values .authorization = [{ HeaderValue.plain "Bearer secret" with sensitive := true }] ∧
      sent.headers.stripHopByHop.values .requestId = [.plain "5f0c7d1e-3a52-4b0e-9d64-1c2f8e7a9b30"] ∧
      sent.headers.stripHopByHop.values .apiKey = [] ∧
      sent.headers.stripHopByHop.values ⟨"proxy-authorization"⟩ = [] ∧ sent.headers.stripHopByHop.values ⟨"te"⟩ = [] ∧
      sent.headers.stripHopByHop.values ⟨"cookie"⟩ = [.plain "a", .plain "b"] := by
  have some : (sample.proxy sampleOutside () 0 "5f0c7d1e-3a52-4b0e-9d64-1c2f8e7a9b30" sampleRequest).forwarded ≠ [] := by
    decide +kernel
  have member := List.head_mem some
  obtain ⟨inbound, t, token, read, -, acquired, -, authorization, -, id, -, others⟩ :=
    forwarded_headers sampleOutside sample () 0 "5f0c7d1e-3a52-4b0e-9d64-1c2f8e7a9b30" (by decide +kernel) sampleRequest
      sampleFields (by decide +kernel) _ _ member
  refine ⟨_, _, member, ?_, id, ?_, ?_, ?_, ?_⟩
  · have secret : token = ⟨"secret", 60⟩ := Option.some.inj (acquired.symm.trans rfl)
    rw [authorization, secret]
    rfl
  · exact others .apiKey (by decide) (by decide) (by decide)
  · exact others ⟨"proxy-authorization"⟩ (by decide) (by decide) (by decide)
  · exact others ⟨"te"⟩ (by decide) (by decide) (by decide)
  · exact (others ⟨"cookie"⟩ (by decide) (by decide) (by decide)).trans (by decide +kernel)

end Gateway

end TenantGateway
