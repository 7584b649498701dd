/-
What is recorded of a run.

`Service.passages` are the requests that a run handles, in their order, and `Passage.record` is the record that is made of one.
`Service.run_traffic` says that the families of requests, balances and latencies are, after a run, what these records make of
them: nothing else that happens to a gateway touches them. `Record` fields are told by the passage alone: under which label it
is counted (`record_tenantLabel`), what the limiter left (`record_remaining`), and that the rest is one of few words.
-/
import TenantGateway.Proofs.Gateway.Changes
import TenantGateway.Proofs.Gateway.Order
import TenantGateway.Proofs.Metrics.Totals

namespace TenantGateway

/-! ## The families that records are counted in -/

namespace Metrics

/-- all families are the same that tell of requests and their answers -/
structure SameTraffic (m m' : Metrics) : Prop where
  requests : m'.requests = m.requests
  remaining : m'.remaining = m.remaining
  durations : m'.durations = m.durations
  streamBytes : m'.streamBytes = m.streamBytes

theorem SameTraffic.refl (m : Metrics) : SameTraffic m m := ⟨rfl, rfl, rfl, rfl⟩

theorem SameTraffic.trans {m m' m'' : Metrics} (h : SameTraffic m m') (h' : SameTraffic m' m'') : SameTraffic m m'' :=
  ⟨h'.requests.trans h.requests, h'.remaining.trans h.remaining, h'.durations.trans h.durations,
    h'.streamBytes.trans h.streamBytes⟩

theorem SameTraffic.count {m m' : Metrics} (h : SameTraffic m m') (r : Record) : SameTraffic (m.count r) (m'.count r) where
  requests := by simp only [Metrics.count, h.requests]
  remaining := by simp only [Metrics.count, h.remaining]
  durations := by simp only [Metrics.count, h.durations]
  streamBytes := h.streamBytes

theorem SameTraffic.foldl_count {m m' : Metrics} (h : SameTraffic m m') (rs : List Record) :
    SameTraffic (rs.foldl Metrics.count m) (rs.foldl Metrics.count m') := by
  induction rs generalizing m m' with
  | nil => exact h
  | cons r rs ih => exact ih (h.count r)

theorem foldl_count_streamBytes (m : Metrics) (bytes : Counters) (rs : List Record) :
    rs.foldl Metrics.count { m with streamBytes := bytes } = { rs.foldl Metrics.count m with streamBytes := bytes } := by
  induction rs generalizing m with
  | nil => rfl
  | cons r rs ih => exact ih (m.count r)

/-- the bytes of a body are counted under one tenant, and nothing else is -/
theorem relay_traffic (m : Metrics) (tenant : String) (body : List Chunk) :
    ∃ bytes : Counters, m.relay tenant body = { m with streamBytes := bytes } ∧
      ∀ l ∈ bytes.table.keys, l ∈ m.streamBytes.table.keys ∨ l = [("tenant", tenant)] := by
  induction body generalizing m with
  | nil => exact ⟨m.streamBytes, rfl, fun _ => .inl⟩
  | cons chunk rest ih =>
    cases chunk with
    | broken => exact ⟨m.streamBytes, rfl, fun _ => .inl⟩
    | data data =>
      obtain ⟨bytes, relayed, known⟩ :=
        ih { m with streamBytes := m.streamBytes.add [("tenant", tenant)] (UInt64.ofNat data.length) }
      refine ⟨bytes, relayed, fun l member => ?_⟩
      rcases known l member with before | own
      · rw [Counters.add, Table.update, Table.mem_keys_insert, key_singleton] at before
        exact before.symm
      · exact .inr own

end Metrics

namespace Diagnostics

open Metrics

/-- a record is counted once, whatever the sinks make of it -/
theorem record_traffic (d : Diagnostics) (r : Record) : SameTraffic (d.metrics.count r) (d.record r).metrics := by
  have distributed (m : Metrics) (sinks : List SinkState) : SameTraffic m (distribute r m sinks).1 := by
    induction sinks generalizing m with
    | nil => exact .refl m
    | cons s rest ih =>
      refine SameTraffic.trans ?_ (ih _)
      split_ifs <;> exact ⟨rfl, rfl, rfl, rfl⟩
  exact distributed (d.metrics.count r) d.sinks

/-- each sink is given the record -/
theorem distribute_sinks (r : Record) (m : Metrics) (sinks : List SinkState) :
    (distribute r m sinks).2 = sinks.map fun s => { s with given := s.given ++ [r] } := by
  induction sinks generalizing m with
  | nil => rfl
  | cons s rest ih => exact congrArg (_ :: ·) (ih _)

end Diagnostics

namespace Gateway

open Metrics

variable {α : Type} [Quantity α]

theorem reload_traffic (g : Gateway α) (next : Config) :
    SameTraffic g.diagnostics.metrics (g.reload next).1.diagnostics.metrics := by
  rw [reload_eq]
  cases checkTenants next.tenants g.registry.requestCost <;> exact ⟨rfl, rfl, rfl, rfl⟩

theorem reloadAll_traffic (g : Gateway α) (configs : List Config) :
    SameTraffic g.diagnostics.metrics (g.reloadAll configs).diagnostics.metrics := by
  induction configs generalizing g with
  | nil => exact .refl _
  | cons next configs ih => exact (g.reload_traffic next).trans (ih (g.reload next).1)

end Gateway

/-! ## The record of a request -/

namespace Flight

variable {α W : Type} (f : Flight α W) (r : Except GatewayError Response)

/-- the record of a flight that ends with a result -/
def summary : Record :=
  match r with
  | .ok answer => .ofContext (f.context.advance .completed) (.success answer.status) f.now
  | .error e => .ofContext (f.context.fail e.code) (.error e.code) f.now

theorem closed_diagnostics : (f.closed r).2.gateway.diagnostics = f.gateway.diagnostics.record (f.summary r) := by
  cases r <;> rfl

theorem summary_tenantLabel : (f.summary r).tenantLabel = (f.context.tenant.map (·.id)).getD Record.unresolvedTenant := by
  cases r <;> rfl

theorem summary_remaining : (f.summary r).remaining = f.context.remaining? := by
  cases r <;> rfl

/-- what a record takes over from the flight, however it ends -/
theorem summary_context :
    (f.summary r).requestId = f.context.requestId ∧ (f.summary r).tenantId = f.context.tenantId ∧
      (f.summary r).category = (f.context.category.map Category.name).getD "none" ∧
      (f.summary r).latency = f.now - f.context.started ∧
      (f.summary r).usageLogging = f.context.tenant.any (·.policy.usageLogging) ∧ (f.summary r).tags = f.context.tags := by
  cases r <;> exact ⟨rfl, rfl, rfl, rfl, rfl, rfl⟩

end Flight

namespace Record

/-- the words for categories, and for none -/
def categoryLabels : List String := "none" :: Category.all.map Category.name

/-- the words for outcomes -/
def outcomeLabels : List String := "success" :: ErrorCode.all.map ErrorCode.name

theorem ofContext_category_mem (c : RequestContext) (outcome : Outcome) (now : ℕ) :
    (ofContext c outcome now).category ∈ categoryLabels := by
  rcases h : c.category with _ | category
  · simp [ofContext, h, categoryLabels]
  · cases category <;> simp [ofContext, h, categoryLabels, Category.all]

theorem outcome_label_mem (outcome : Outcome) : outcome.label ∈ outcomeLabels := by
  cases outcome with
  | success status => exact List.mem_cons_self
  | error code => cases code <;> simp [Outcome.label, outcomeLabels, ErrorCode.all]

end Record

namespace Passage

open Metrics

variable {α W : Type} [Quantity α] (p : Passage α W)

/-- the result of the gates, and the last flight -/
def ended : Except GatewayError Response × Flight α W :=
  (Gate.pass p.outside p.caller p.request.body).runOn p.received

theorem ended_course : p.Course p.ended.1 p.ended.2 := by
  obtain ⟨r, f, passes, course⟩ := p.course
  rw [ended, passes]
  exact course

theorem handled_eq : p.handled = p.ended.2.closed p.ended.1 := by
  rw [handled, Gateway.handle_eq, ended, received]
  rcases (Gate.pass p.outside p.caller p.request.body).runOn _ with ⟨_ | _, f⟩ <;> rfl

/-- the record of the request -/
def record : Record := p.ended.2.summary p.ended.1

omit [Quantity α] in
/-- the label under which the request is counted: its tenant's id, if it has a tenant -/
def label : String := (p.tenant?.map (·.id)).getD Record.unresolvedTenant

variable {p}

theorem Course.tenant {r : Except GatewayError Response} {f : Flight α W} (course : p.Course r f) :
    f.context.tenant = p.tenant? := by
  cases course with
  | unknown none => exact none.symm
  | disabled found | unmatched found | barred found => exact found.symm
  | uncredited letIn | unsendable letIn => exact letIn.found.symm
  | left authorized | revoked authorized | throttled authorized => exact authorized.found.symm
  | leftPaid paid | unplaced paid => exact paid.found.symm
  | leftPlaced placed | failed placed | answered placed => exact placed.found.symm

/-- on its way a request changes none of the families that it is counted in at its end -/
theorem Course.traffic {r : Except GatewayError Response} {f : Flight α W} (course : p.Course r f) :
    SameTraffic p.gateway.diagnostics.metrics f.gateway.diagnostics.metrics := by
  have supplied : SameTraffic p.gateway.diagnostics.metrics p.supplied.diagnostics.metrics :=
    p.gateway.reloadAll_traffic p.tokenLoads
  cases course with
  | unknown | disabled | unmatched | barred => exact .refl _
  | uncredited | unsendable | left | revoked | throttled | leftPaid | unplaced | leftPlaced => exact supplied
  | @failed t token | @answered t token => exact supplied.trans ((p.charged t).reloadAll_traffic _)

variable (p)

theorem record_tenantLabel : p.record.tenantLabel = p.label := by
  rw [record, Flight.summary_tenantLabel, p.ended_course.tenant]
  rfl

theorem record_remaining : p.record.remaining = p.decision?.map Admission.remaining := by
  rw [record, Flight.summary_remaining, p.ended_course.remaining?]

theorem record_category_mem : p.record.category ∈ Record.categoryLabels := by
  unfold record Flight.summary
  cases p.ended.1 <;> exact Record.ofContext_category_mem ..

/-- **A request is counted once**, by its record. -/
theorem handled_traffic :
    SameTraffic (p.gateway.diagnostics.metrics.count p.record) p.handled.2.gateway.diagnostics.metrics := by
  rw [p.handled_eq, Flight.closed_diagnostics]
  exact (p.ended_course.traffic.count p.record).trans (Diagnostics.record_traffic _ _)

/-- the bytes of an answer are counted under the id of its request's tenant -/
theorem tenant_of_countedFor {reply : Reply} (told : p.handled.1 = .ok reply) {id : String}
    (counted : reply.countedFor = some id) : ∃ t ∈ p.gateway.registry.current.tenants, t.id = id := by
  have course := p.ended_course
  rw [p.handled_eq, course.told] at told
  cases ended : p.ended.1 with
  | error e =>
    rw [ended] at told
    cases told
  | ok answer =>
    rw [ended] at told
    cases told
    cases found : p.tenant? with
    | none => simp [found] at counted
    | some t =>
      simp only [found, Option.any_some, Option.ite_none_right_eq_some, Option.some.injEq] at counted
      refine ⟨t, List.mem_of_find?_eq_some found, ?_⟩
      rw [← counted.2]
      simpa using List.find?_some found

end Passage

/-! ## The requests of a run -/

namespace Service

open Metrics

variable {α W : Type}

/-- the request that is handled in a turn, if one is: an operator's page is none, nor is a request that cannot be read -/
def passage? (o : Outside W) (s : Service α W) : Turn → Option (Passage α W)
  | .request now requestId r =>
    match OperatorPage.ofPath? r.uri.path, s.gateway.inbound r with
    | none, .ok inbound => some ⟨o, s.gateway, s.world, now, requestId, { gone := s.gateway.closing }, inbound⟩
    | _, _ => none
  | .inbound now requestId caller r => some ⟨o, s.gateway, s.world, now, requestId, caller, r⟩
  | _ => none

theorem passage?_gateway {o : Outside W} {s : Service α W} {t : Turn} {p : Passage α W} (handles : s.passage? o t = some p) :
    p.gateway = s.gateway := by
  cases t with
  | request now requestId r =>
    simp only [passage?] at handles
    split at handles <;> cases handles
    rfl
  | inbound now requestId caller r =>
    cases handles
    rfl
  | reload | drain | shutDown => cases handles

/-- the ids of the tenants that are registered now -/
def ids (s : Service α W) : List String := s.gateway.registry.current.tenants.map (·.id)

variable [Quantity α]

/-- the requests that are handled in a list of turns, each as it meets the gateway -/
def passages (o : Outside W) (s : Service α W) : List Turn → List (Passage α W)
  | [] => []
  | t :: ts => (s.passage? o t).toList ++ (s.step o t).passages o ts

/-- the ids of the tenants that are registered when one of the turns begins, or at the end -/
def registered (o : Outside W) (s : Service α W) : List Turn → List String
  | [] => s.ids
  | t :: ts => s.ids ++ (s.step o t).registered o ts

/-- the families after a turn that handles these requests; `known` are the tenants under whose ids bytes may be counted -/
def CountsTo (ps : List (Passage α W)) (known : List String) (before after : Metrics) : Prop :=
  ∃ bytes : Counters,
    SameTraffic { (ps.map Passage.record).foldl Metrics.count before with streamBytes := bytes } after ∧
      ∀ l ∈ bytes.table.keys, l ∈ before.streamBytes.table.keys ∨ ∃ id ∈ known, l = [("tenant", id)]

theorem CountsTo.trans {ps ps' : List (Passage α W)} {known known' : List String} {m m' m'' : Metrics}
    (h : CountsTo ps known m m') (h' : CountsTo ps' known' m' m'') : CountsTo (ps ++ ps') (known ++ known') m m'' := by
  obtain ⟨bytes, same, kept⟩ := h
  obtain ⟨bytes', same', kept'⟩ := h'
  refine ⟨bytes', ?_, fun l member => ?_⟩
  · have first := same.foldl_count (ps'.map Passage.record)
    rw [foldl_count_streamBytes] at first
    rw [List.map_append, List.foldl_append]
    exact ⟨same'.requests.trans first.requests, same'.remaining.trans first.remaining,
      same'.durations.trans first.durations, same'.streamBytes⟩
  · rcases kept' l member with before | ⟨id, known, own⟩
    · rw [same.streamBytes] at before
      rcases kept l before with before | ⟨id, known, own⟩
      · exact .inl before
      · exact .inr ⟨id, List.mem_append_left _ known, own⟩
    · exact .inr ⟨id, List.mem_append_right _ known, own⟩

theorem countsTo_of_same {m m' : Metrics} (h : SameTraffic m m') (known : List String) :
    CountsTo ([] : List (Passage α W)) known m m' :=
  ⟨m.streamBytes, h, fun _ => .inl⟩

theorem countsTo_of_counted {p : Passage α W} {m m' : Metrics} (h : SameTraffic (m.count p.record) m') (known : List String) :
    CountsTo [p] known m m' :=
  ⟨m.streamBytes, h, fun _ => .inl⟩

/-- passing on a reply comes after its request is counted -/
theorem CountsTo.relay {p : Passage α W} {m : Metrics} {g : Gateway α} {known : List String}
    (h : SameTraffic (m.count p.record) g.diagnostics.metrics) {reply : Reply}
    (counted : ∀ id, reply.countedFor = some id → id ∈ known) :
    CountsTo [p] known m (g.relay reply).diagnostics.metrics := by
  unfold Gateway.relay
  cases tenant : reply.countedFor with
  | none => exact countsTo_of_counted h known
  | some id =>
    obtain ⟨bytes, relayed, kept⟩ := g.diagnostics.metrics.relay_traffic id reply.body
    refine ⟨bytes, ?_, fun l member => ?_⟩
    · have after : (g.withMetrics (·.relay id reply.body)).diagnostics.metrics =
          { g.diagnostics.metrics with streamBytes := bytes } := relayed
      rw [after]
      exact ⟨h.requests, h.remaining, h.durations, rfl⟩
    · rcases kept l member with before | own
      · rw [h.streamBytes] at before
        exact .inl before
      · exact .inr ⟨id, counted id tenant, own⟩

theorem proxy_countsTo (o : Outside W) (s : Service α W) (now : ℕ) (requestId : String) {r : Request} {inbound : Inbound}
    (read : s.gateway.inbound r = .ok inbound) :
    CountsTo [⟨o, s.gateway, s.world, now, requestId, { gone := s.gateway.closing }, inbound⟩] s.ids
      s.gateway.diagnostics.metrics (s.gateway.proxy o s.world now requestId r).gateway.diagnostics.metrics := by
  let p : Passage α W := ⟨o, s.gateway, s.world, now, requestId, { gone := s.gateway.closing }, inbound⟩
  have handled : s.gateway.handle o s.world now requestId { gone := s.gateway.closing } inbound = p.handled := rfl
  have counted : SameTraffic (s.gateway.diagnostics.metrics.count p.record)
      (if p.handled.2.cancelled then p.handled.2.gateway.shutDown else p.handled.2.gateway).diagnostics.metrics := by
    split_ifs
    · exact p.handled_traffic.trans ⟨rfl, rfl, rfl, rfl⟩
    · exact p.handled_traffic
  simp only [Gateway.proxy, read, handled]
  cases told : p.handled.1 with
  | error e => exact countsTo_of_counted counted s.ids
  | ok reply =>
    dsimp only
    generalize (if p.handled.2.cancelled then p.handled.2.gateway.shutDown else p.handled.2.gateway) = last at counted ⊢
    split_ifs
    · exact countsTo_of_counted counted s.ids
    · refine CountsTo.relay counted fun id own => ?_
      obtain ⟨t, member, rfl⟩ := p.tenant_of_countedFor told own
      exact List.mem_map_of_mem member

/-- a turn counts the request that it handles, if it handles one -/
theorem step_countsTo (o : Outside W) (s : Service α W) (t : Turn) :
    CountsTo (s.passage? o t).toList s.ids s.gateway.diagnostics.metrics (s.step o t).gateway.diagnostics.metrics := by
  cases t with
  | request now requestId r =>
    cases page : OperatorPage.ofPath? r.uri.path with
    | some found =>
      simp only [passage?, step, Gateway.serve, page]
      split_ifs <;> exact countsTo_of_same (.refl _) s.ids
    | none =>
      have served : (s.gateway.serve o s.world now requestId r).gateway =
          (s.gateway.proxy o s.world now requestId r).gateway := by
        unfold Gateway.serve
        rw [page]
        dsimp only
        split_ifs <;> rfl
      simp only [passage?, step, page, served]
      cases read : s.gateway.inbound r with
      | error e =>
        simp only [Gateway.proxy, read]
        exact countsTo_of_same (.refl _) s.ids
      | ok inbound => exact s.proxy_countsTo o now requestId read
  | inbound now requestId caller r =>
    let p : Passage α W := ⟨o, s.gateway, s.world, now, requestId, caller, r⟩
    exact countsTo_of_counted p.handled_traffic s.ids
  | reload next => exact countsTo_of_same (s.gateway.reload_traffic next) s.ids
  | drain =>
    have same : SameTraffic s.gateway.diagnostics.metrics s.gateway.drain.diagnostics.metrics := ⟨rfl, rfl, rfl, rfl⟩
    exact countsTo_of_same same s.ids
  | shutDown => exact countsTo_of_same (SameTraffic.refl s.gateway.diagnostics.metrics) s.ids

/-- **A run counts the requests that it handles, and nothing else.** -/
theorem run_countsTo (o : Outside W) (s : Service α W) (ts : List Turn) :
    CountsTo (s.passages o ts) (s.registered o ts) s.gateway.diagnostics.metrics
      (s.run o ts).gateway.diagnostics.metrics := by
  induction ts generalizing s with
  | nil => exact countsTo_of_same (.refl _) _
  | cons t ts ih => exact (s.step_countsTo o t).trans (ih (s.step o t))

/-- a request is counted under the id of a tenant that was registered then, or as unresolved -/
theorem label_mem (o : Outside W) (s : Service α W) (ts : List Turn) :
    ∀ p ∈ s.passages o ts, p.label ∈ Record.unresolvedTenant :: s.registered o ts := by
  induction ts generalizing s with
  | nil => simp [passages]
  | cons t ts ih =>
    intro p member
    rw [passages, List.mem_append] at member
    rw [registered, List.mem_cons, List.mem_append]
    rcases member with now | later
    · have here : p.gateway = s.gateway := passage?_gateway (Option.mem_toList.1 now)
      cases found : p.tenant? with
      | none => simp [Passage.label, found]
      | some t =>
        have known : t ∈ s.gateway.registry.current.tenants := here ▸ List.mem_of_find?_eq_some found
        have named : p.label = t.id := by simp [Passage.label, found]
        exact .inr (.inl (named ▸ List.mem_map_of_mem known))
    · rcases List.mem_cons.1 (ih (s.step o t) p later) with unknown | known
      · exact .inl unknown
      · exact .inr (.inr known)

end Service

end TenantGateway
