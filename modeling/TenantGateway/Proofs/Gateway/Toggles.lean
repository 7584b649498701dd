/-
Policies only observe.

Two gateways are started from configurations that differ in nothing but the policies and the display names of tenants, and the
same comes to both (`Happening.Alike`): requests, callers who leave or take bodies, and reloads, whose configurations may differ
in the same things. A `View` is what callers and backends see of one happening. `Live.Alike.step` compares the gateways in one
happening, and `policies_only_observe` in a run: what is seen is the same, and what is left is alike. What a policy adds to the
metrics is said exactly, by the pieces that callers were given. In `opaque_type_uncounted` a stream is not counted although its
content type begins as one of events should: it is no visible text.
-/
import TenantGateway.Proofs.Gateway.Observed
import TenantGateway.Proofs.Gateway.Secrecy
import TenantGateway.Proofs.Gateway.Streams

namespace TenantGateway

/-! ## What callers and backends see -/

/-- whether it is a request for the metrics, which show what was observed -/
def Turn.isForMetrics : Turn → Bool
  | .request _ _ r => OperatorPage.ofPath? r.uri.path = some .metrics
  | _ => false

/-- the same comes to two gateways, but for the policies and display names of a configuration to load -/
inductive Happening.Alike : Happening → Happening → Prop
  | same (h : Happening) : Alike h h
  | reloaded {next next' : Config} (same : next.bare = next'.bare) : Alike (.turn (.reload next)) (.turn (.reload next'))

/-- what is seen of a happening: what is answered, the pieces of bodies that callers are given, each with the response that it
is of, and what is forwarded -/
structure View where
  answer : Option Response := none
  pieces : List (Response × List UInt8) := []
  forwarded : List (Category × ForwardRequest) := []

/-- a piece as its caller sees it -/
def Piece.shown {α W : Type} (p : Piece α W) : Response × List UInt8 :=
  (p.reply.response, p.bytes)

namespace Service

variable {α W : Type} [Quantity α]

/-- what is answered in a turn; of the metrics, those that policies bear on are not looked at -/
def shown? (o : Outside W) (s : Service α W) (t : Turn) : Option Response :=
  if t.isForMetrics then { s with gateway := s.gateway.withMetrics Metrics.bare }.answer? o t else s.answer? o t

/-- what is forwarded in a turn, and to which backends -/
def forwards (o : Outside W) (s : Service α W) : Turn → List (Category × ForwardRequest)
  | .request now requestId r => (s.gateway.serve o s.world now requestId r).forwarded
  | .inbound now requestId caller r => (s.gateway.handle o s.world now requestId caller r).2.forwarded
  | _ => []

def view (o : Outside W) (s : Service α W) (t : Turn) : View :=
  { answer := s.shown? o t, pieces := (s.sent o t).map Piece.shown, forwarded := s.forwards o t }

end Service

namespace Live

variable {α W : Type} [Quantity α]

def view (o : Outside W) (l : Live α W) (h : Happening) : View :=
  match h with
  | .turn t => l.service.view o t
  | .take _ => { pieces := (l.sent o h).map Piece.shown }

/-- what is seen of a run, one happening after another -/
def views (o : Outside W) (l : Live α W) : List Happening → List View
  | [] => []
  | h :: hs => l.view o h :: (l.step o h).views o hs

end Live

/-! ## Two gateways in one turn -/

/-- what callers are told of a request that was handled alike -/
theorem Response.ofHandled_alike {r r' : Except ErrorReply Reply}
    (both : Except.Both (fun reply reply' => reply.bare = reply'.bare) r r') : ofHandled r = ofHandled r' := by
  rcases both.cases with ⟨reply, reply', rfl, rfl, same⟩ | ⟨e, rfl, rfl⟩
  · exact Reply.response_alike same
  · rfl

theorem Passage.passedOn_alike {α W : Type} [Quantity α] (p p' : Passage α W)
    (both : Except.Both (fun reply reply' => reply.bare = reply'.bare) p.handled.1 p'.handled.1) (method : String) :
    (p.passedOn method).map Piece.shown = (p'.passedOn method).map Piece.shown := by
  unfold passedOn
  rcases both.cases with ⟨reply, reply', left, right, same⟩ | ⟨e, left, right⟩
  · have response := Reply.response_alike same
    have body : reply.body = reply'.body := congrArg Response.body response
    rw [left, right]
    dsimp only
    rw [body]
    split_ifs
    · rfl
    · simp only [List.map_map, Function.comp_def, Piece.shown, response]
  · rw [left, right]

namespace Service

variable {α W : Type} [Quantity α] {s s' : Service α W} {o o' : Outside W}

/-- services that are the same, but for what policies bear on -/
structure Alike (s s' : Service α W) : Prop where
  gateway : s.gateway.Alike s'.gateway
  world : s.world = s'.world

theorem Alike.request (alike : Alike s s') (same : o.SameButPolicies o') (now : ℕ) (requestId : String) (r : Request) :
    s.shown? o (.request now requestId r) = s'.shown? o' (.request now requestId r) ∧
      s.forwards o (.request now requestId r) = s'.forwards o' (.request now requestId r) ∧
      Alike (s.step o (.request now requestId r)) (s'.step o' (.request now requestId r)) := by
  by_cases metrics : OperatorPage.ofPath? r.uri.path = some .metrics
  · have asked : (Turn.request now requestId r).isForMetrics = true := decide_eq_true metrics
    have page := alike.gateway.page .metrics
    simp only [shown?, asked, if_true, answer?, forwards, step, Gateway.serve_page _ _ _ now requestId metrics, page]
    exact ⟨trivial, trivial, alike⟩
  · have other : (Turn.request now requestId r).isForMetrics = false := decide_eq_false metrics
    have served := alike.gateway.serve same s.world now requestId metrics
    simp only [shown?, other, Bool.false_eq_true, if_false, answer?, forwards, step, ← alike.world, served.response,
      served.forwarded]
    exact ⟨trivial, trivial, served.gateway, served.world⟩

theorem Alike.handled (alike : Alike s s') (same : o.SameButPolicies o') (now : ℕ) (requestId : String) (caller : Caller)
    (r : Inbound) :
    (s.gateway.handle o s.world now requestId caller r).2.Alike (s'.gateway.handle o' s'.world now requestId caller r).2 ∧
      Except.Both (fun reply reply' => reply.bare = reply'.bare) (s.gateway.handle o s.world now requestId caller r).1
        (s'.gateway.handle o' s'.world now requestId caller r).1 := by
  rw [alike.world]
  exact alike.gateway.handle same s'.world now requestId caller r

/-- the caller of a request is given the same pieces -/
theorem Alike.sent (alike : Alike s s') (same : o.SameButPolicies o') (t : Turn) :
    (s.sent o t).map Piece.shown = (s'.sent o' t).map Piece.shown := by
  cases t with
  | inbound | reload | drain | shutDown => rfl
  | request now requestId r =>
    simp only [Service.sent, passage?, alike.gateway.inbound, alike.gateway.closing]
    cases OperatorPage.ofPath? r.uri.path with
    | some page => rfl
    | none =>
      cases s'.gateway.inbound r with
      | error e => rfl
      | ok inbound =>
        let p : Passage α W := ⟨o, s.gateway, s.world, now, requestId, { gone := s'.gateway.closing }, inbound⟩
        let p' : Passage α W := ⟨o', s'.gateway, s'.world, now, requestId, { gone := s'.gateway.closing }, inbound⟩
        obtain ⟨-, results⟩ := alike.handled same p.now p.requestId p.caller p.request
        exact Passage.passedOn_alike p p' results r.method

/-- **A turn goes alike.** -/
theorem Alike.turn (alike : Alike s s') (same : o.SameButPolicies o') (t : Turn) :
    s.view o t = s'.view o' t ∧ Alike (s.step o t) (s'.step o' t) := by
  have pieces := alike.sent same t
  cases t with
  | request now requestId r =>
    obtain ⟨answer, forwarded, left⟩ := alike.request same now requestId r
    exact ⟨by simp only [view, answer, forwarded, pieces], left⟩
  | inbound now requestId caller r =>
    obtain ⟨flights, results⟩ := alike.handled same now requestId caller r
    have answer := congrArg some (Response.ofHandled_alike results)
    have forwarded := flights.forwarded
    exact ⟨congrArg₂ (View.mk · []) answer forwarded, flights.gateway, flights.world⟩
  | reload next => exact ⟨rfl, alike.gateway.reload rfl, alike.world⟩
  | drain => exact ⟨rfl, alike.gateway.drain, alike.world⟩
  | shutDown => exact ⟨rfl, alike.gateway.shutDown, alike.world⟩

end Service

/-! ## Two gateways whose replies are streamed -/

/-- a stream, but for the request that it answers -/
def Stream.bare {α W : Type} [Quantity α] (s : Stream α W) : Reply × ℕ :=
  (s.reply.bare, s.taken)

namespace Stream

variable {α W : Type} [Quantity α] {s s' : Stream α W}

theorem next?_alike (same : s.bare = s'.bare) : s.next? = s'.next? := by
  have body : s.reply.body = s'.reply.body := congrArg (·.1.body) same
  have taken : s.taken = s'.taken := congrArg Prod.snd same
  rw [next?, next?, body, taken]

theorem bare_advanced (same : s.bare = s'.bare) : s.advanced.bare = s'.advanced.bare :=
  congrArg (fun bare : Reply × ℕ => (bare.1, bare.2 + 1)) same

/-- requests that are handled alike begin streams that are alike -/
theorem opened_alike (p p' : Passage α W)
    (both : Except.Both (fun reply reply' => reply.bare = reply'.bare) p.handled.1 p'.handled.1) :
    (opened p).map bare = (opened p').map bare := by
  have opened (p : Passage α W) : (opened p).map bare = p.handled.1.toOption.map fun reply => (reply.bare, 0) := by
    unfold Stream.opened
    split
    · rename_i told
      exact (congrArg (fun r : Except ErrorReply Reply => r.toOption.map fun reply => (reply.bare, 0)) told).symm
    · rename_i failed
      exact (congrArg (fun r : Except ErrorReply Reply => r.toOption.map fun reply => (reply.bare, 0)) failed).symm
  rw [opened, opened]
  rcases both.cases with ⟨reply, reply', left, right, same⟩ | ⟨e, left, right⟩
  · rw [left, right]
    exact congrArg (fun bare => some (bare, 0)) same
  · rw [left, right]

end Stream

namespace Live

variable {α W : Type} [Quantity α] {l l' : Live α W} {o o' : Outside W}

/-- the same gateway at work on the same streams, but for what policies bear on -/
structure Alike (l l' : Live α W) : Prop where
  service : l.service.Alike l'.service
  streams : l.streams.map Stream.bare = l'.streams.map Stream.bare

/-- the next piece of a stream is the same, or there is none in either -/
theorem Alike.next? (alike : Alike l l') (number : ℕ) :
    (l.next? number = none ∧ l'.next? number = none) ∨
      ∃ s s' bytes, l.next? number = some (s, bytes) ∧ l'.next? number = some (s', bytes) ∧ s.bare = s'.bare := by
  have streams := congrArg (·[number]?) alike.streams
  simp only [List.getElem?_map] at streams
  unfold Live.next?
  cases here : l.streams[number]? with
  | none =>
    cases there : l'.streams[number]? with
    | none => exact .inl ⟨rfl, rfl⟩
    | some s' => simp [here, there] at streams
  | some s =>
    cases there : l'.streams[number]? with
    | none => simp [here, there] at streams
    | some s' =>
      rw [here, there] at streams
      have same : s.bare = s'.bare := Option.some.inj streams
      have next := Stream.next?_alike same
      cases given : s'.next? with
      | none =>
        left
        simp [next, given]
      | some bytes =>
        right
        exact ⟨s, s', bytes, by simp [next, given], by simp [given], same⟩

theorem Alike.opened? (alike : Alike l l') (same : o.SameButPolicies o') (t : Turn) :
    (l.opened? o t).map Stream.bare = (l'.opened? o' t).map Stream.bare := by
  cases t with
  | request | reload | drain | shutDown => rfl
  | inbound now requestId caller r =>
    obtain ⟨-, results⟩ := alike.service.handled same now requestId caller r
    let p : Passage α W := ⟨o, l.service.gateway, l.service.world, now, requestId, caller, r⟩
    let p' : Passage α W := ⟨o', l'.service.gateway, l'.service.world, now, requestId, caller, r⟩
    exact Stream.opened_alike p p' results

/-- **A happening goes alike.** -/
theorem Alike.step (alike : Alike l l') (same : o.SameButPolicies o') {h h' : Happening} (happens : h.Alike h') :
    l.view o h = l'.view o' h' ∧ Alike (l.step o h) (l'.step o' h') := by
  cases happens with
  | reloaded configs =>
    refine ⟨rfl, ⟨alike.service.gateway.reload configs, alike.service.world⟩, ?_⟩
    simpa only [Live.step, Live.opened?, Option.toList_none, List.append_nil] using alike.streams
  | same h =>
    cases h with
    | turn t =>
      obtain ⟨view, service⟩ := alike.service.turn same t
      refine ⟨view, service, ?_⟩
      have opened := congrArg Option.toList (alike.opened? same t)
      simp only [Option.toList_map] at opened
      simp only [Live.step, List.map_append, alike.streams, opened]
    | take number =>
      rcases alike.next? number with ⟨here, there⟩ | ⟨s, s', bytes, here, there, streams⟩
      · simp only [Live.view, Live.step, sent, here, there]
        exact ⟨trivial, alike⟩
      · have bodies : s.reply.response = s'.reply.response := Reply.response_alike (congrArg Prod.fst streams)
        simp only [Live.view, Live.step, sent, here, there]
        refine ⟨?_, ⟨alike.service.gateway.relay _ _, alike.service.world⟩, ?_⟩
        · simp only [Option.map_some, Option.toList_some, List.map_cons, List.map_nil, Piece.shown, bodies]
        · simp only [List.map_set, alike.streams, Stream.bare_advanced streams]

/-- **A run goes alike.** -/
theorem Alike.run (alike : Alike l l') (same : o.SameButPolicies o') {hs hs' : List Happening}
    (happens : List.Forall₂ Happening.Alike hs hs') :
    l.views o hs = l'.views o' hs' ∧ Alike (l.run o hs) (l'.run o' hs') := by
  induction happens generalizing l l' with
  | nil => exact ⟨rfl, alike⟩
  | cons first _ ih =>
    obtain ⟨view, next⟩ := alike.step same first
    obtain ⟨views, last⟩ := ih next
    exact ⟨congrArg₂ List.cons view views, last⟩

end Live

/-! ## Whole runs -/

/-- gateways are alike when they are started from configurations that differ in policies and display names -/
theorem Gateway.build_alike {α : Type} {config config' : Config} (same : config.bare = config'.bare) {source : Option String}
    {backends : List Category} {sinks : List Sink} {g g' : Gateway α} (built : build config source backends sinks = .ok g)
    (built' : build config' source backends sinks = .ok g') : Alike g g' := by
  obtain ⟨-, name, registry, routes, rfl, made, routed, rfl⟩ := build_eq_ok_iff.1 built
  obtain ⟨-, name', registry', routes', named, made', routed', rfl⟩ := build_eq_ok_iff.1 built'
  obtain rfl : name = name' := Option.some.inj named
  obtain ⟨-, rfl⟩ := Registry.make_eq_ok_iff.1 made
  obtain ⟨-, rfl⟩ := Registry.make_eq_ok_iff.1 made'
  obtain ⟨-, gateway, -, credentials, routing, tenants⟩ := Config.mk.inj same
  have table : routes = routes' := by
    have bare : config.routeTable = config'.routeTable := by
      rw [Config.routeTable, Config.routeTable, routing]
    exact Except.ok.inj (routed.symm.trans (bare.trans routed'))
  exact
    { settings := by simp only [Settings.bare, same, table]
      registry := Registry.bare_eq_iff.2
        ⟨Snapshot.bare_eq_iff.2 ⟨Tenant.bare_ofConfig_alike tenants, rfl⟩, congrArg GatewaySection.requestCost gateway⟩
      limiter := rfl
      cache := by rw [credentials]
      diagnostics := .refl _
      closing := rfl }

namespace Live

variable {α W : Type} [Quantity α]

/-- **Policies only observe.** Two gateways are built from configurations that differ in the policies and the display names of
tenants, over the same world, and the same comes to both, in any order: requests, callers who leave, clocks and ids as they are,
callers who take the next piece of a body, and reloads, which may differ in the same things. Then all that callers and backends
see is the same, one happening after another, the metrics page apart in the families that policies bear on; the world outside
ends in the same state, and the gateways end with the same buckets, the same tokens in the cache and the same requests,
latencies and balances, alike in everything else. Under the id of a tenant each has counted the bytes of the pieces that were
passed on of replies to it, whose first content type is visible text that begins with `text/event-stream` and whose requests
found its policy to have streams counted, and no others. -/
theorem policies_only_observe {config config' : Config} (same : config.bare = config'.bare) {source : Option String}
    {backends : List Category} {sinks : List Sink} {start start' : Gateway α}
    (built : Gateway.build config source backends sinks = .ok start)
    (built' : Gateway.build config' source backends sinks = .ok start') {o o' : Outside W} (outside : o.SameButPolicies o')
    (world : W) {hs hs' : List Happening} (happens : List.Forall₂ Happening.Alike hs hs') :
    let l : Live α W := ⟨⟨start, world⟩, []⟩
    let l' : Live α W := ⟨⟨start', world⟩, []⟩
    let last := (l.run o hs).service
    let last' := (l'.run o' hs').service
    l.views o hs = l'.views o' hs' ∧ last.world = last'.world ∧
      last.gateway.limiter = last'.gateway.limiter ∧ last.gateway.cache = last'.gateway.cache ∧
      last.gateway.diagnostics.metrics.requests = last'.gateway.diagnostics.metrics.requests ∧
      last.gateway.diagnostics.metrics.durations = last'.gateway.diagnostics.metrics.durations ∧
      last.gateway.diagnostics.metrics.remaining = last'.gateway.diagnostics.metrics.remaining ∧
      last.gateway.Alike last'.gateway ∧
      ∀ id, last.gateway.bytesOf id = UInt64.ofNat (Piece.counted id (l.pieces o hs)) ∧
        last'.gateway.bytesOf id = UInt64.ofNat (Piece.counted id (l'.pieces o' hs')) := by
  intro l l' last last'
  have alike : Alike l l' := ⟨⟨Gateway.build_alike same built built', rfl⟩, rfl⟩
  obtain ⟨views, ⟨gateway, worlds⟩, -⟩ := alike.run outside happens
  have metrics : last.gateway.diagnostics.metrics.bare = last'.gateway.diagnostics.metrics.bare := gateway.diagnostics.metrics
  obtain ⟨requests, remaining, durations, -⟩ := Metrics.mk.inj metrics
  have fresh {config : Config} {g : Gateway α} (built : Gateway.build config source backends sinks = .ok g) (id : String) :
      g.bytesOf id = 0 := by
    obtain ⟨-, -, -, -, -, -, -, rfl⟩ := Gateway.build_eq_ok_iff.1 built
    rfl
  have counted {config : Config} {g : Gateway α} (built : Gateway.build config source backends sinks = .ok g) (o : Outside W)
      (hs : List Happening) (id : String) :
      ((Live.mk ⟨g, world⟩ []).run o hs).service.gateway.bytesOf id =
        UInt64.ofNat (Piece.counted id ((Live.mk ⟨g, world⟩ []).pieces o hs)) := by
    rw [bytesOf_run, fresh built, UInt64.zero_add]
  exact ⟨views, worlds, gateway.limiter, gateway.cache, requests, durations, remaining, gateway,
    fun id => ⟨counted built o hs id, counted built' o' hs' id⟩⟩

/-- a configuration of which everything is observed that can be, or nothing -/
def watched (on : Bool) : Config :=
  { version := 1
    tenants :=
      [{ id := "acme"
         displayName := if on then some "Acme" else none
         policy := { piiRedaction := { enabled := on }, usageLogging := on, streamingMetrics := on, intelligentRouting := on } }] }

/-- the gateway that is built from it -/
def watchedGateway (on : Bool) : Gateway ℚ :=
  { settings := { config := watched on, routes := .standard, source := "static", backends := [.openai] }
    registry := ⟨⟨(watched on).tenants.map .ofConfig, 1⟩, 1⟩
    limiter := .empty
    cache := .empty 300000000000
    diagnostics := .start []
    closing := false }

/-- a world whose backends answer with a body of one piece that then breaks, under some content type -/
def chatty (type : String) : Outside Unit where
  fetch w _ _ := ({ answer := .ok ⟨"secret", 60⟩ }, w)
  forward w _ _ :=
    ({ answer := .ok
        ⟨200, Headers.empty.insertIf .contentType (HeaderValue.ofText? type), [.data (Text.bytes "data"), .broken]⟩ }, w)

/-- a request whose caller tries to take two pieces of the reply -/
def twoTakes : List Happening :=
  [.turn (.inbound 0 "id" {} ⟨"acme", "POST", "/openai/chat", .empty, []⟩), .take 0, .take 0]

theorem build_watched (on : Bool) : Gateway.build (watched on) (some "static") [.openai] [] = .ok (watchedGateway on) := by
  cases on <;> rfl

/-- **All policies on, and all off.** The caller sees the same; what it took is counted in the one and not in the other. -/
theorem policies_only_observe_watched :
    (watched true).bare = (watched false).bare ∧
    Gateway.build (watched true) (some "static") [.openai] [] = .ok (watchedGateway true) ∧
    Gateway.build (watched false) (some "static") [.openai] [] = .ok (watchedGateway false) ∧
    let o := chatty "text/event-stream; charset=utf-8"
    let l : Live ℚ Unit := ⟨⟨watchedGateway true, ()⟩, []⟩
    let l' : Live ℚ Unit := ⟨⟨watchedGateway false, ()⟩, []⟩
    l.views o twoTakes = l'.views o twoTakes ∧
      (l.run o twoTakes).service.gateway.bytesOf "acme" = 4 ∧ (l'.run o twoTakes).service.gateway.bytesOf "acme" = 0 := by
  have same : (watched true).bare = (watched false).bare := rfl
  have happens : List.Forall₂ Happening.Alike twoTakes twoTakes := List.forall₂_same.2 fun h _ => .same h
  obtain ⟨views, -, -, -, -, -, -, -, counted⟩ := policies_only_observe same (build_watched true) (build_watched false)
    (.refl (chatty "text/event-stream; charset=utf-8")) () happens
  obtain ⟨on, off⟩ := counted "acme"
  refine ⟨same, build_watched true, build_watched false, views, on.trans ?_, off.trans ?_⟩
  · decide +kernel
  · decide +kernel

end Live

/-- the bytes of the pieces of replies to a tenant whose policy has streams counted, under a content type that begins as one of
events, visible text or not -/
def Piece.announced {α W : Type} (id : String) (ps : List (Piece α W)) : ℕ :=
  let begins (h : Headers) : Bool :=
    (h.first? .contentType).any fun type => (Text.bytes "text/event-stream").isPrefixOf type.bytes
  let isAnnounced (p : Piece α W) : Bool :=
    p.passage.tenant?.any (fun t => t.id = id && t.policy.streamingMetrics) && begins p.reply.headers
  ((ps.filter isAnnounced).map (·.bytes.length)).sum

namespace Live

/-- **A stream that is not counted.** The content type begins with `text/event-stream` and is no visible text, because of a
letter in one of its parameters. Four bytes are passed on, and none is counted. -/
theorem opaque_type_uncounted :
    Gateway.build (watched true) (some "static") [.openai] [] = .ok (watchedGateway true) ∧
    let o := chatty "text/event-stream; name=é"
    let l : Live ℚ Unit := ⟨⟨watchedGateway true, ()⟩, []⟩
    Piece.announced "acme" (l.pieces o twoTakes) = 4 ∧ (l.run o twoTakes).service.gateway.bytesOf "acme" = 0 ∧
      (l.run o twoTakes).service.gateway.bytesOf "acme" ≠ UInt64.ofNat (Piece.announced "acme" (l.pieces o twoTakes)) := by
  refine ⟨build_watched true, ?_⟩
  decide +kernel

end Live

end TenantGateway
