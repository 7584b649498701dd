/-
What decides the route of a request.

The query is passed on and decides nothing: `Passage.handled_withPath` compares two passages whose paths differ after a question mark,
`Gateway.proxy_withQuery` two requests that differ in their queries, and both meet the same decisions (`Passage.SameDecisions`).
`Gateway.routed_by_path` adds that in path mode the first segment, which names the tenant, decides nothing about the route either.
-/
import TenantGateway.Proofs.Gateway.ForwardedHeaders
import TenantGateway.Proofs.Http.Targets

namespace TenantGateway

open Text

/-! ## What is forwarded -/

namespace TenantSource

/-- the path that is forwarded, without a query -/
def forwardPath (source : TenantSource) (path : String) : String :=
  match source with
  | .pathPrefix => String.ofList (splitPath path.toList).2
  | .header _ => path

variable (source : TenantSource) (uri : Uri) (h : Headers)

/-- what is forwarded is made of the path, and of the query as it is -/
theorem extract_path : (source.extract uri h).2 = source.forwardPath uri.path ++ uri.queryPart := by
  cases source <;> rfl

/-- the query names no tenant -/
theorem extract_tenant_withQuery (query : Option String) :
    (source.extract { uri with query } h).1 = (source.extract uri h).1 := by
  cases source <;> rfl

end TenantSource

/-- a query does not count for the text before the first question mark -/
theorem Uri.before_queryPart (path : String) (u : Uri) :
    before '?' (path ++ u.queryPart).toList = before '?' path.toList := by
  unfold queryPart
  cases u.query with
  | none => simp
  | some q => simpa using before_append_mark path.toList q.toList

theorem RouteTable.classify_congr (table : RouteTable) {path path' : String}
    (same : before '?' path.toList = before '?' path'.toList) : table.classify path = table.classify path' := by
  unfold classify
  rw [same]

/-! ## Two passages -/

namespace Passage

variable {α W : Type} [Quantity α]

/-- two requests meet the same decisions, whatever their paths -/
structure SameDecisions (p p' : Passage α W) : Prop where
  tenant : p.tenant? = p'.tenant?
  category : p.category = p'.category
  failures : ∀ c, p.failure c = p'.failure c
  admission : p.decision? = p'.decision?

omit [Quantity α] in
/-- the passage of the request with another path -/
def withPath (p : Passage α W) (path : String) : Passage α W :=
  { p with request := { p.request with path } }

variable (p : Passage α W) {path : String}

omit [Quantity α] in
theorem category_withPath (same : before '?' path.toList = before '?' p.request.path.toList) :
    (p.withPath path).category = p.category :=
  p.gateway.settings.routes.classify_congr same

theorem failure_withPath (same : before '?' path.toList = before '?' p.request.path.toList) (c : Checkpoint) :
    (p.withPath path).failure c = p.failure c := by
  have category := p.category_withPath same
  have bare : (p.withPath path).barePath = p.barePath := congrArg String.ofList same
  cases c with
  | routed =>
    rw [failure, failure, category, bare]
  | allowed =>
    rw [failure, failure, category]
    rfl
  | served =>
    rw [failure, failure, category]
    rfl
  | _ => rfl

theorem sameDecisions_withPath (same : before '?' path.toList = before '?' p.request.path.toList) :
    SameDecisions (p.withPath path) p where
  tenant := rfl
  category := p.category_withPath same
  failures := p.failure_withPath same
  admission := by
    simp only [decision?, reaches, p.failure_withPath same]
    rfl

variable {p} {p' : Passage α W}

theorem SameDecisions.firstFailure? (same : SameDecisions p p') : p.firstFailure? = p'.firstFailure? := by
  have failures : p.failure = p'.failure := funext same.failures
  rw [Passage.firstFailure?, Passage.firstFailure?, failures]

theorem told_withPath (same : before '?' path.toList = before '?' p.request.path.toList)
    (r : Except GatewayError Response) : (p.withPath path).told r = p.told r := by
  cases r <;> simp only [told, (p.sameDecisions_withPath same).admission] <;> rfl

/-- **Two passages that differ after a question mark.** Either neither request is forwarded and both callers are told the same, or both
are forwarded to the same backend and differ in nothing but their paths. -/
theorem handled_withPath (same : before '?' path.toList = before '?' p.request.path.toList) :
    (p.handled.2.forwarded = [] ∧ (p.withPath path).handled.2.forwarded = [] ∧
        (p.withPath path).handled.1 = p.handled.1) ∨
      ∃ t token, p.handled.2.forwarded = [(p.category, p.outgoing t token)] ∧
        (p.withPath path).handled.2.forwarded = [(p.category, { p.outgoing t token with path })] := by
  have decisions := p.sameDecisions_withPath same
  obtain ⟨r, f, course, handled⟩ := p.handled_course
  obtain ⟨r', f', course', handled'⟩ := (p.withPath path).handled_course
  have decided' := course'.decided
  rw [decisions.firstFailure?, decisions.category] at decided'
  rw [handled, handled', course.told, course'.told, told_withPath same, Flight.closed_forwarded, Flight.closed_forwarded]
  rcases course.decided with ⟨e, first, rfl, nothing⟩ | ⟨first, t, token, found, acquired, last⟩
  · rcases decided' with ⟨e', first', rfl, nothing'⟩ | ⟨first', -⟩
    · obtain rfl := Option.some.inj (first.symm.trans first')
      exact .inl ⟨nothing, nothing', rfl⟩
    · simp [first] at first'
  · rcases decided' with ⟨e', first', -⟩ | ⟨-, t', token', found', acquired', last'⟩
    · simp [first] at first'
    · -- both have passed every checkpoint, with one tenant and one token
      obtain rfl := Option.some.inj (found.symm.trans found')
      obtain rfl := Option.some.inj (acquired.symm.trans acquired')
      by_cases left : p.caller.leavesAtDispatch = true
      · obtain ⟨rfl, nothing⟩ := (if_pos left).mp last
        obtain ⟨rfl, nothing'⟩ := (if_pos left).mp last'
        exact .inl ⟨nothing, nothing', rfl⟩
      · obtain ⟨-, sent⟩ := (if_neg left).mp last
        obtain ⟨-, sent'⟩ := (if_neg left).mp last'
        exact .inr ⟨t, token, sent, sent'⟩

end Passage

/-! ## Two requests -/

/-- the request with another query, or with none -/
def Request.withQuery (r : Request) (query : Option String) : Request :=
  { r with uri := { r.uri with query } }

/-- what two requests come to that differ in their queries: neither is forwarded and both are answered alike, or both are forwarded to
one backend with the same path, each with its own query, and do not differ in anything else -/
def Served.AlikeButQuery {α W : Type} (path query query' : String) (s s' : Served α W) : Prop :=
  (s.forwarded = [] ∧ s'.forwarded = [] ∧ s'.response = s.response) ∨
    ∃ (c : Category) (sent : ForwardRequest),
      s.forwarded = [(c, { sent with path := path ++ query })] ∧ s'.forwarded = [(c, { sent with path := path ++ query' })]

namespace Gateway

variable {α W : Type}

theorem inbound_path {g : Gateway α} {r : Request} {inbound : Inbound} (read : g.inbound r = .ok inbound) :
    inbound.path = g.settings.config.gateway.tenantSource.forwardPath r.uri.path ++ r.uri.queryPart := by
  rw [← TenantSource.extract_path _ r.uri r.headers]
  unfold Gateway.inbound at read
  dsimp only at read
  split at read
  · cases read
  · cases read
    rfl

/-- a request with another query is read alike, but for its path -/
theorem inbound_withQuery (g : Gateway α) (r : Request) (query : Option String) :
    g.inbound (r.withQuery query) =
      (g.inbound r).map fun inbound =>
        { inbound with
          path := g.settings.config.gateway.tenantSource.forwardPath r.uri.path ++ (r.withQuery query).uri.queryPart } := by
  have path := g.settings.config.gateway.tenantSource.extract_path (r.withQuery query).uri r.headers
  have tenant := g.settings.config.gateway.tenantSource.extract_tenant_withQuery r.uri r.headers query
  unfold inbound Request.withQuery at *
  dsimp only at *
  rw [path, tenant]
  cases readBody g.settings.config.gateway.maxBodyBytes [] r.body <;> rfl

variable [Quantity α] (o : Outside W) (g : Gateway α) (world : W) (now : ℕ) (requestId : String) (r : Request)

/-- a request for an operator's page is answered by its path and its method -/
theorem serve_of_page {page : OperatorPage} (found : OperatorPage.ofPath? r.uri.path = some page) (query : Option String) :
    (g.serve o world now requestId r).forwarded = [] ∧
      g.serve o world now requestId (r.withQuery query) = g.serve o world now requestId r := by
  unfold serve Request.withQuery
  rw [found]
  dsimp only
  split_ifs <;> exact ⟨rfl, rfl⟩

/-- what is forwarded for a request is what was extracted from its target -/
theorem forwarded_path {c : Category} {sent : ForwardRequest} (forwarded : (c, sent) ∈ (g.serve o world now requestId r).forwarded) :
    sent.path = (g.settings.config.gateway.tenantSource.extract r.uri r.headers).2 := by
  cases page : OperatorPage.ofPath? r.uri.path with
  | some found =>
    rw [(g.serve_of_page o world now requestId r page none).1] at forwarded
    cases forwarded
  | none =>
    rw [(g.serve_of_tenant o world now requestId r page).1] at forwarded
    cases read : g.inbound r with
    | error e => simp [proxy, read] at forwarded
    | ok inbound =>
      obtain ⟨result, f, course, handled⟩ :=
        Passage.handled_course ⟨o, g, world, now, requestId, { gone := g.closing }, inbound⟩
      rw [(proxy_of_inbound o world now requestId read).1, handled, Flight.closed_forwarded] at forwarded
      obtain ⟨t, token, remaining, placed, rfl⟩ := course.placed_of_forwarded forwarded
      exact (inbound_path read).trans (TenantSource.extract_path ..).symm

theorem proxy_withQuery (query : Option String) :
    let r' := r.withQuery query
    let path := g.settings.config.gateway.tenantSource.forwardPath r.uri.path
    Served.AlikeButQuery path r.uri.queryPart r'.uri.queryPart (g.proxy o world now requestId r)
      (g.proxy o world now requestId r') := by
  intro r' path
  have read' := g.inbound_withQuery r query
  cases read : g.inbound r with
  | error e =>
    rw [read] at read'
    have failed : g.inbound r' = .error e := read'
    unfold proxy
    rw [read, failed]
    exact .inl ⟨rfl, rfl, rfl⟩
  | ok inbound =>
    rw [read] at read'
    obtain ⟨sent, told⟩ := proxy_of_inbound o world now requestId read
    obtain ⟨sent', told'⟩ := proxy_of_inbound o world now requestId read'
    let p : Passage α W := ⟨o, g, world, now, requestId, { gone := g.closing }, inbound⟩
    have written : p.request.path = path ++ r.uri.queryPart := inbound_path read
    have same : before '?' (path ++ r'.uri.queryPart).toList = before '?' p.request.path.toList := by
      rw [written, Uri.before_queryPart, Uri.before_queryPart]
    unfold Served.AlikeButQuery
    rw [sent, sent', told, told']
    rcases Passage.handled_withPath same with ⟨nothing, nothing', answer⟩ | ⟨t, token, one, one'⟩
    · refine .inl ⟨nothing, nothing', ?_⟩
      have answer : (Passage.mk o g world now requestId { gone := g.closing }
          { inbound with path := path ++ r'.uri.queryPart }).handled.1 = p.handled.1 := answer
      rw [answer]
    · refine .inr ⟨p.category, p.outgoing t token, ?_, one'⟩
      rw [← written]
      exact one

theorem serve_withQuery (query : Option String) :
    let r' := r.withQuery query
    let path := g.settings.config.gateway.tenantSource.forwardPath r.uri.path
    Served.AlikeButQuery path r.uri.queryPart r'.uri.queryPart (g.serve o world now requestId r)
      (g.serve o world now requestId r') := by
  intro r' path
  cases page : OperatorPage.ofPath? r.uri.path with
  | some found =>
    obtain ⟨nothing, same⟩ := g.serve_of_page o world now requestId r page query
    exact .inl ⟨nothing, same ▸ nothing, congrArg Served.response same⟩
  | none =>
    obtain ⟨sent, told⟩ := g.serve_of_tenant o world now requestId r page
    obtain ⟨sent', told'⟩ := g.serve_of_tenant o world now requestId r' page
    have method : r'.method = r.method := rfl
    unfold Served.AlikeButQuery
    rw [sent, sent', told, told', method]
    rcases g.proxy_withQuery o world now requestId r query with ⟨nothing, nothing', answer⟩ | forwarded
    · exact .inl ⟨nothing, nothing', by rw [answer]⟩
    · exact .inr forwarded

omit [Quantity α] in
theorem extract_withQuery (query : Option String) :
    let source := g.settings.config.gateway.tenantSource
    let path := source.forwardPath r.uri.path
    ∃ id, source.extract r.uri r.headers = (id, path ++ r.uri.queryPart) ∧
      source.extract (r.withQuery query).uri r.headers = (id, path ++ (r.withQuery query).uri.queryPart) := by
  intro source path
  refine ⟨(source.extract r.uri r.headers).1, ?_, ?_⟩
  · exact Prod.ext rfl (source.extract_path r.uri r.headers)
  · exact Prod.ext (source.extract_tenant_withQuery r.uri r.headers query)
      (source.extract_path (r.withQuery query).uri r.headers)

/-- two readings of a request: both fail alike, or both meet the same decisions, whatever their caller does -/
def DecidedAlike : Except ErrorReply Inbound → Except ErrorReply Inbound → Prop
  | .ok inbound', .ok inbound => ∀ caller,
    Passage.SameDecisions ⟨o, g, world, now, requestId, caller, inbound'⟩ ⟨o, g, world, now, requestId, caller, inbound⟩
  | .error e', .error e => e' = e
  | _, _ => False

theorem decisions_withQuery (query : Option String) :
    g.DecidedAlike o world now requestId (g.inbound (r.withQuery query)) (g.inbound r) := by
  rw [g.inbound_withQuery r query]
  cases read : g.inbound r with
  | error e => rfl
  | ok inbound =>
    intro caller
    let p : Passage α W := ⟨o, g, world, now, requestId, caller, inbound⟩
    have written : p.request.path = _ := inbound_path read
    exact p.sameDecisions_withPath (by rw [written, Uri.before_queryPart, Uri.before_queryPart])

/-- **Only the path after the tenant decides the route.** Take any gateway, and two requests that differ in their queries at most.
They name the same tenant and fall into the same category, they meet the same decisions, and what is forwarded for them is the same
path, each with its own query as it was written. Either neither is forwarded and both are answered alike, or both are forwarded to one
backend and differ in nothing else. In path mode the tenant decides nothing about the route either: where two targets differ in their
first segments only, these are the tenants, and what is forwarded for both is the same. -/
theorem routed_by_path (query : Option String) :
    let r' := r.withQuery query
    let source := g.settings.config.gateway.tenantSource
    let path := source.forwardPath r.uri.path
    (∃ id, source.extract r.uri r.headers = (id, path ++ r.uri.queryPart) ∧
      source.extract r'.uri r'.headers = (id, path ++ r'.uri.queryPart)) ∧
    (∀ table : RouteTable, table.classify (path ++ r'.uri.queryPart) = table.classify (path ++ r.uri.queryPart)) ∧
    g.DecidedAlike o world now requestId (g.inbound r') (g.inbound r) ∧
    Served.AlikeButQuery path r.uri.queryPart r'.uri.queryPart (g.serve o world now requestId r)
      (g.serve o world now requestId r') ∧
    ∀ id id' rest : String, TenantSource.IsSegment id.toList → TenantSource.IsSegment id'.toList → Uri.IsRest rest.toList →
      ∀ u u', Uri.parse ("/" ++ id ++ rest) = some u → Uri.parse ("/" ++ id' ++ rest) = some u' →
      ∀ (h h' : Headers) (table : RouteTable),
        let (tenant, target) := TenantSource.pathPrefix.extract u h
        let (tenant', target') := TenantSource.pathPrefix.extract u' h'
        tenant = id ∧ tenant' = id' ∧ target' = target ∧ table.classify target' = table.classify target := by
  intro r' source path
  refine ⟨g.extract_withQuery r query, ?_, g.decisions_withQuery o world now requestId r query,
    g.serve_withQuery o world now requestId r query, ?_⟩
  · intro table
    exact table.classify_congr (by rw [Uri.before_queryPart, Uri.before_queryPart])
  · intro id id' rest segment segment' isRest u u' parsed parsed' h h' table
    rw [TenantSource.extract_segment segment isRest parsed, TenantSource.extract_segment segment' isRest parsed']
    exact ⟨rfl, rfl, rfl, rfl⟩

/-- **A tenant that is called like a route.** Its name and a query in which the pattern stands route its requests nowhere. -/
theorem routed_by_path_openai :
    let target : Uri := ⟨"/openai/v1/chat", some "model=openai"⟩
    let target' : Uri := ⟨"/acme/v1/chat", some "model=openai"⟩
    Uri.parse "/openai/v1/chat?model=openai" = some target ∧ Uri.parse "/acme/v1/chat?model=openai" = some target' ∧
      (TenantSource.pathPrefix.extract target .empty).1 = "openai" ∧
      (TenantSource.pathPrefix.extract target' .empty).1 = "acme" ∧
      RouteTable.standard.classify (TenantSource.pathPrefix.extract target' .empty).2 =
        RouteTable.standard.classify (TenantSource.pathPrefix.extract target .empty).2 ∧
      RouteTable.standard.classify (TenantSource.pathPrefix.extract target .empty).2 = .unmatched := by
  intro target target'
  have segment : TenantSource.IsSegment "openai".toList := ⟨by decide, by decide, by decide, by decide⟩
  have segment' : TenantSource.IsSegment "acme".toList := ⟨by decide, by decide, by decide, by decide⟩
  have isRest : Uri.IsRest "/v1/chat?model=openai".toList := by simp [Uri.IsRest]
  have parsed : Uri.parse ("/" ++ "openai" ++ "/v1/chat?model=openai") = some target := by decide +kernel
  have parsed' : Uri.parse ("/" ++ "acme" ++ "/v1/chat?model=openai") = some target' := by decide +kernel
  obtain ⟨-, -, -, -, alike⟩ := routed_by_path sampleOutside sample () 0 "id" sampleRequest none
  obtain ⟨tenant, tenant', -, category⟩ :=
    alike "openai" "acme" "/v1/chat?model=openai" segment segment' isRest target target' parsed parsed' .empty .empty .standard
  exact ⟨parsed, parsed', tenant, tenant', category, by decide +kernel⟩

end Gateway

end TenantGateway
