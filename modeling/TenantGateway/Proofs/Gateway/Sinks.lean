/-
Sinks only listen.

A gateway is set beside the same gateway without the sinks that were added, over any run: requests, callers who leave or take bodies, and
reloads. `Live.records` are the records of the requests that a run handles, in their order. `Sink.refusals` counts those of them that a sink
refuses, which may depend in any way on what it was given before.
- `Diagnostics.Heard`: what is left when records were given out: each sink has all of them, whatever the others made of them;
- `Live.heard_run`: so it is after any run;
- `Live.sinkless_run`, `sinkless_scenes`: the run goes as it does without sinks, in all that callers and backends see;
- `sinks_only_listen`: both together, from the start of a gateway on.
-/
import TenantGateway.Proofs.Gateway.Reload
import TenantGateway.Proofs.Gateway.Sinkless
import TenantGateway.Proofs.Gateway.Stages
import TenantGateway.Proofs.Gateway.Toggles

namespace TenantGateway

/-! ## What sinks refuse -/

/-- how many records a sink refuses that it is given one after another, after those it was given before -/
def Sink.refusals (s : Sink) (before : List Record) : List Record → ℕ
  | [] => 0
  | r :: rest => (if s.accepts before r then 0 else 1) + s.refusals (before ++ [r]) rest

theorem Sink.refusals_append (s : Sink) (before rs rs' : List Record) :
    s.refusals before (rs ++ rs') = s.refusals before rs + s.refusals (before ++ rs) rs' := by
  induction rs generalizing before with
  | nil => simp [refusals]
  | cons r rs ih =>
    rw [List.cons_append, refusals, refusals, ih, List.append_assoc, List.singleton_append, Nat.add_assoc]

/-- the families that a record is counted in -/
def Metrics.recorded (m : Metrics) : Counters × Gauges × Histograms :=
  (m.requests, m.remaining, m.durations)

theorem Metrics.recorded_foldl_count {m m' : Metrics} (same : m.recorded = m'.recorded) (rs : List Record) :
    (rs.foldl Metrics.count m).recorded = (rs.foldl Metrics.count m').recorded := by
  induction rs generalizing m m' with
  | nil => exact same
  | cons r rs ih =>
    refine ih ?_
    obtain ⟨requests, remaining, durations⟩ : m.requests = m'.requests ∧ m.remaining = m'.remaining ∧ m.durations = m'.durations := by
      simpa [recorded] using same
    simp only [recorded, count, requests, remaining, durations]

namespace Diagnostics

/-- how many times sinks of this name refuse one of the records, each counted for itself -/
def refused (name : String) (sinks : List SinkState) (rs : List Record) : ℕ :=
  ((sinks.filter (·.sink.name = name)).map fun s => s.sink.refusals s.given rs).sum

/-- what sinks have when each was given more records -/
def giving (rs : List Record) (sinks : List SinkState) : List SinkState :=
  sinks.map fun s => { s with given := s.given ++ rs }

theorem giving_append (rs rs' : List Record) (sinks : List SinkState) : giving rs' (giving rs sinks) = giving (rs ++ rs') sinks := by
  simp only [giving, List.map_map, Function.comp_def, List.append_assoc]

theorem refused_append (name : String) (sinks : List SinkState) (rs rs' : List Record) :
    refused name sinks (rs ++ rs') = refused name sinks rs + refused name (giving rs sinks) rs' := by
  simp only [refused, giving, List.filter_map, List.map_map, Function.comp_def, Sink.refusals_append, List.sum_map_add]

/-- records were given out: they are logged and counted, each sink has all of them, and what was refused is counted under its name -/
structure Heard (before after : Diagnostics) (rs : List Record) : Prop where
  logged : after.events = before.events ++ rs.flatMap Record.events
  counted : after.metrics.recorded = (rs.foldl Metrics.count before.metrics).recorded
  given : after.sinks = giving rs before.sinks
  dropped : ∀ name, after.metrics.dropped.get [("sink", name)] =
    before.metrics.dropped.get [("sink", name)] + UInt64.ofNat (refused name before.sinks rs)

variable {d d' d'' : Diagnostics} {rs rs' : List Record}

/-- nothing was given out -/
theorem Heard.nothing (events : d'.events = d.events) (recorded : d'.metrics.recorded = d.metrics.recorded) (sinks : d'.sinks = d.sinks)
    (dropped : d'.metrics.dropped = d.metrics.dropped) : Heard d d' [] where
  logged := by rw [events, List.flatMap_nil, List.append_nil]
  counted := recorded
  given := by simp [sinks, giving]
  dropped name := by
    have none : refused name d.sinks [] = 0 := by simp [refused, Sink.refusals]
    rw [dropped, none]
    exact (UInt64.add_zero _).symm

theorem Heard.trans (first : Heard d d' rs) (later : Heard d' d'' rs') : Heard d d'' (rs ++ rs') where
  logged := by rw [later.logged, first.logged, List.flatMap_append, List.append_assoc]
  counted := by rw [later.counted, Metrics.recorded_foldl_count first.counted, List.foldl_append]
  given := by rw [later.given, first.given, giving_append]
  dropped name := by
    rw [later.dropped, first.dropped, first.given, refused_append, UInt64.ofNat_add, UInt64.add_assoc]

theorem refused_cons (name : String) (s : SinkState) (rest : List SinkState) (r : Record) :
    refused name (s :: rest) [r] =
      (if s.sink.name = name ∧ s.sink.accepts s.given r = false then 1 else 0) + refused name rest [r] := by
  by_cases own : s.sink.name = name <;> cases accepted : s.sink.accepts s.given r <;>
    simp [refused, own, accepted, Sink.refusals]

/-- each refusal is counted once -/
theorem dropped_get_distribute (r : Record) (m : Metrics) (sinks : List SinkState) (name : String) :
    (distribute r m sinks).1.dropped.get [("sink", name)] =
      m.dropped.get [("sink", name)] + UInt64.ofNat (refused name sinks [r]) := by
  induction sinks generalizing m with
  | nil => exact (UInt64.add_zero _).symm
  | cons s rest ih =>
    have first : (if s.sink.accepts s.given r then m else m.countDropped s.sink.name).dropped.get [("sink", name)] =
        m.dropped.get [("sink", name)] +
          UInt64.ofNat (if s.sink.name = name ∧ s.sink.accepts s.given r = false then 1 else 0) := by
      cases accepted : s.sink.accepts s.given r with
      | true => simp
      | false =>
        have counted : (m.countDropped s.sink.name).dropped = m.dropped.add [("sink", s.sink.name)] 1 := rfl
        rw [if_neg Bool.false_ne_true]
        by_cases own : name = s.sink.name
        · subst own
          rw [counted, Counters.get_add, if_pos rfl, if_pos ⟨rfl, rfl⟩]
          rfl
        · have other : ¬ s.sink.name = name := Ne.symm own
          rw [counted, Counters.get_add, Metrics.key_singleton, Metrics.key_singleton]
          simp [own, other]
    rw [distribute, refused_cons, UInt64.ofNat_add, ← UInt64.add_assoc, ← first]
    exact ih _

/-- **Each sink is given a record**, whatever the sinks before it have made of it. -/
theorem heard_record (d : Diagnostics) (r : Record) : Heard d (d.record r) [r] where
  logged := by
    rw [List.flatMap_singleton]
    rfl
  counted := by
    obtain ⟨requests, remaining, durations, -⟩ := d.record_traffic r
    simp only [Metrics.recorded, requests, remaining, durations, List.foldl_cons, List.foldl_nil]
  given := distribute_sinks r _ d.sinks
  dropped := dropped_get_distribute r (d.metrics.count r) d.sinks

end Diagnostics

open Diagnostics

/-! ## Records of a run -/

namespace Gateway

variable {α : Type}

/-- passing on a reply is told to nobody, -/
theorem heard_relay (g : Gateway α) (reply : Reply) : Heard g.diagnostics (g.relay reply).diagnostics [] := by
  unfold relay
  cases reply.countedFor with
  | none => exact .nothing rfl rfl rfl rfl
  | some tenant =>
    obtain ⟨bytes, relayed, -⟩ := g.diagnostics.metrics.relay_traffic tenant reply.body
    have metrics : (g.withMetrics (·.relay tenant reply.body)).diagnostics.metrics = { g.diagnostics.metrics with streamBytes := bytes } :=
      relayed
    exact .nothing rfl (by rw [metrics]; rfl) rfl (by rw [metrics])

variable [Quantity α]

/-- nor is a reload. -/
theorem heard_reload (g : Gateway α) (next : Config) : Heard g.diagnostics (g.reload next).1.diagnostics [] := by
  rw [reload_eq]
  cases checkTenants next.tenants g.registry.requestCost <;> exact .nothing rfl rfl rfl rfl

theorem heard_reloadAll (g : Gateway α) (configs : List Config) : Heard g.diagnostics (g.reloadAll configs).diagnostics [] := by
  induction configs generalizing g with
  | nil => exact .nothing rfl rfl rfl rfl
  | cons next configs ih => exact (g.heard_reload next).trans (ih _)

end Gateway

namespace Passage

variable {α W : Type} [Quantity α]

/-- nobody is told of a request while it is on its way, -/
theorem Course.heard {p : Passage α W} {r : Except GatewayError Response} {f : Flight α W} (course : p.Course r f) :
    Heard p.gateway.diagnostics f.gateway.diagnostics [] := by
  cases course with
  | unknown | disabled | unmatched | barred => exact .nothing rfl rfl rfl rfl
  | uncredited | unsendable | left | revoked | throttled | leftPaid | unplaced | leftPlaced => exact p.gateway.heard_reloadAll p.tokenLoads
  | @failed t token | @answered t token =>
    exact (p.gateway.heard_reloadAll p.tokenLoads).trans ((p.charged t).heard_reloadAll _)

/-- and everybody once at its end. -/
theorem heard_handled (p : Passage α W) : Heard p.gateway.diagnostics p.handled.2.gateway.diagnostics [p.record] := by
  rw [p.handled_eq, Flight.closed_diagnostics]
  exact p.ended_course.heard.trans (heard_record _ p.record)

end Passage

namespace Service

variable {α W : Type} [Quantity α]

/-- the record of the request that is handled in a turn, if one is -/
def recorded (o : Outside W) (s : Service α W) (t : Turn) : List Record :=
  ((s.passage? o t).map Passage.record).toList

theorem heard_proxy (o : Outside W) (s : Service α W) (now : ℕ) (requestId : String) {r : Request}
    (own : OperatorPage.ofPath? r.uri.path = none) :
    Heard s.gateway.diagnostics (s.gateway.proxy o s.world now requestId r).gateway.diagnostics
      (s.recorded o (.request now requestId r)) := by
  unfold Gateway.proxy recorded
  cases read : s.gateway.inbound r with
  | error e =>
    simp only [passage?, own, read]
    exact .nothing rfl rfl rfl rfl
  | ok inbound =>
    let p : Passage α W := ⟨o, s.gateway, s.world, now, requestId, { gone := s.gateway.closing }, inbound⟩
    have handled : s.gateway.handle o s.world now requestId { gone := s.gateway.closing } inbound = p.handled := rfl
    have heard : Heard s.gateway.diagnostics
        (if p.handled.2.cancelled then p.handled.2.gateway.shutDown else p.handled.2.gateway).diagnostics [p.record] := by
      split_ifs
      · exact p.heard_handled
      · exact p.heard_handled
    simp only [passage?, own, read, handled, Option.map_some, Option.toList_some]
    generalize (if p.handled.2.cancelled then p.handled.2.gateway.shutDown else p.handled.2.gateway) = last at heard ⊢
    cases p.handled.1 with
    | error e => exact heard
    | ok reply =>
      dsimp only
      split_ifs
      · exact heard
      · exact heard.trans (last.heard_relay reply)

/-- a turn tells of the request that it handles, if it handles one -/
theorem heard_step (o : Outside W) (s : Service α W) (t : Turn) :
    Heard s.gateway.diagnostics (s.step o t).gateway.diagnostics (s.recorded o t) := by
  cases t with
  | request now requestId r =>
    cases own : OperatorPage.ofPath? r.uri.path with
    | some page =>
      simp only [recorded, passage?, own, step, Gateway.serve_page o _ _ now requestId own]
      exact .nothing rfl rfl rfl rfl
    | none =>
      have served : (s.gateway.serve o s.world now requestId r).gateway = (s.gateway.proxy o s.world now requestId r).gateway := by
        simp only [Gateway.serve, own]
        split_ifs <;> rfl
      simp only [step, served]
      exact heard_proxy o s now requestId own
  | inbound now requestId caller r => exact Passage.heard_handled ⟨o, s.gateway, s.world, now, requestId, caller, r⟩
  | reload next => exact s.gateway.heard_reload next
  | drain => exact .nothing rfl rfl rfl rfl
  | shutDown => exact .nothing rfl rfl rfl rfl

end Service

namespace Live

variable {α W : Type} [Quantity α]

/-- the records of what happens -/
def recorded (o : Outside W) (l : Live α W) : Happening → List Record
  | .turn t => l.service.recorded o t
  | .take _ => []

/-- the records of a run, in the order of its requests -/
def records (o : Outside W) (l : Live α W) : List Happening → List Record
  | [] => []
  | h :: hs => l.recorded o h ++ (l.step o h).records o hs

theorem heard_step (o : Outside W) (l : Live α W) (h : Happening) :
    Heard l.service.gateway.diagnostics (l.step o h).service.gateway.diagnostics (l.recorded o h) := by
  cases h with
  | turn t => exact l.service.heard_step o t
  | take number =>
    simp only [step, recorded]
    cases l.next? number with
    | none => exact .nothing rfl rfl rfl rfl
    | some given => exact l.service.gateway.heard_relay _

/-- **A run gives each sink the records of its requests**, in their order, and nothing else. -/
theorem heard_run (o : Outside W) (l : Live α W) (hs : List Happening) :
    Heard l.service.gateway.diagnostics (l.run o hs).service.gateway.diagnostics (l.records o hs) := by
  induction hs generalizing l with
  | nil => exact .nothing rfl rfl rfl rfl
  | cons h hs ih => exact (l.heard_step o h).trans (ih _)

end Live

/-! ## The same run without sinks -/

theorem Passage.sinkless_passedOn {α W : Type} [Quantity α] (p : Passage α W) (method : String) :
    (p.sinkless.passedOn method).map Piece.shown = (p.passedOn method).map Piece.shown := by
  simp only [passedOn, p.sinkless_told]
  cases p.handled.1 with
  | error e => rfl
  | ok reply =>
    dsimp only
    split_ifs
    · rfl
    · simp only [List.map_map, Function.comp_def, Piece.shown]

namespace Service

variable {α W : Type}

def sinkless (s : Service α W) : Service α W :=
  { s with gateway := s.gateway.sinkless }

theorem sinkless_passage? (o : Outside W) (s : Service α W) (t : Turn) :
    s.sinkless.passage? o t = (s.passage? o t).map Passage.sinkless := by
  cases t with
  | request now requestId r =>
    have inbound : s.sinkless.gateway.inbound r = s.gateway.inbound r := rfl
    simp only [passage?, inbound]
    cases OperatorPage.ofPath? r.uri.path with
    | some page => rfl
    | none => cases s.gateway.inbound r <;> rfl
  | inbound | reload | drain | shutDown => rfl

variable [Quantity α]

/-- what is answered in a turn; of the metrics, what sinks have refused is not looked at -/
def seen? (o : Outside W) (s : Service α W) (t : Turn) : Option Response :=
  if t.isForMetrics then { s with gateway := s.gateway.withMetrics Metrics.untallied }.answer? o t else s.answer? o t

variable (o : Outside W) (s : Service α W)

theorem sinkless_recorded (t : Turn) : s.sinkless.recorded o t = s.recorded o t := by
  simp only [recorded, sinkless_passage?, Option.map_map, Function.comp_def, Passage.sinkless_record]

theorem sinkless_sent (t : Turn) : (s.sinkless.sent o t).map Piece.shown = (s.sent o t).map Piece.shown := by
  cases t with
  | inbound | reload | drain | shutDown => rfl
  | request now requestId r =>
    simp only [sent, sinkless_passage?]
    cases s.passage? o (.request now requestId r) with
    | none => rfl
    | some p => exact p.sinkless_passedOn r.method

/-- a request over HTTP goes as it does without sinks -/
theorem sinkless_request (now : ℕ) (requestId : String) (r : Request) :
    s.sinkless.seen? o (.request now requestId r) = s.seen? o (.request now requestId r) ∧
      s.sinkless.forwards o (.request now requestId r) = s.forwards o (.request now requestId r) ∧
      s.sinkless.step o (.request now requestId r) = (s.step o (.request now requestId r)).sinkless := by
  by_cases metrics : OperatorPage.ofPath? r.uri.path = some .metrics
  · have asked : (Turn.request now requestId r).isForMetrics = true := decide_eq_true metrics
    simp only [seen?, asked, if_true, answer?, forwards, step, Gateway.serve_page o _ _ now requestId metrics]
    exact ⟨rfl, trivial, trivial⟩
  · have other : (Turn.request now requestId r).isForMetrics = false := decide_eq_false metrics
    have served := s.gateway.sinkless_serve o s.world now requestId metrics
    have gateway : s.sinkless.gateway = s.gateway.sinkless := rfl
    have world : s.sinkless.world = s.world := rfl
    simp only [seen?, other, Bool.false_eq_true, if_false, answer?, forwards, step, gateway, world, served]
    exact ⟨rfl, rfl, rfl⟩

theorem sinkless_step (t : Turn) : s.sinkless.step o t = (s.step o t).sinkless := by
  cases t with
  | request now requestId r => exact (s.sinkless_request o now requestId r).2.2
  | inbound now requestId caller r =>
    have handled := s.gateway.sinkless_handle o s.world now requestId caller r
    simp only [step, sinkless] at handled ⊢
    rw [handled]
    rfl
  | reload next => exact congrArg (fun gateway => Service.mk gateway s.world) (s.gateway.sinkless_reload next).symm
  | drain | shutDown => rfl

end Service

namespace Live

variable {α W : Type} [Quantity α]

/-- what is seen of a happening; of the metrics, what sinks have refused is not looked at -/
def scene (o : Outside W) (l : Live α W) (h : Happening) : View :=
  match h with
  | .turn t => { answer := l.service.seen? o t, pieces := (l.service.sent o t).map Piece.shown, forwarded := l.service.forwards o t }
  | .take _ => { pieces := (l.sent o h).map Piece.shown }

/-- what is seen of a run, one happening after another -/
def scenes (o : Outside W) (l : Live α W) : List Happening → List View
  | [] => []
  | h :: hs => l.scene o h :: (l.step o h).scenes o hs

end Live

namespace Stream

variable {α W : Type} [Quantity α]

def sinkless (s : Stream α W) : Stream α W :=
  { s with
    passage := s.passage.sinkless
    told := s.passage.sinkless_told.trans s.told }

theorem opened_of_ok {p : Passage α W} {reply : Reply} (told : p.handled.1 = .ok reply) : opened p = some ⟨p, reply, told, 0⟩ := by
  unfold opened
  split
  · rename_i reply' told'
    obtain rfl : reply' = reply := Except.ok.inj (told'.symm.trans told)
    rfl
  · rename_i failed
    cases failed.symm.trans told

theorem opened_of_error {p : Passage α W} {e : ErrorReply} (told : p.handled.1 = .error e) : opened p = none := by
  unfold opened
  split
  · rename_i answered
    cases answered.symm.trans told
  · rfl

theorem sinkless_opened (p : Passage α W) : opened p.sinkless = (opened p).map sinkless := by
  cases told : p.handled.1 with
  | error e => rw [opened_of_error told, opened_of_error (p.sinkless_told.trans told), Option.map_none]
  | ok reply =>
    rw [opened_of_ok told, opened_of_ok (p.sinkless_told.trans told)]
    rfl

end Stream

namespace Live

variable {α W : Type} [Quantity α]

def sinkless (l : Live α W) : Live α W :=
  ⟨l.service.sinkless, l.streams.map Stream.sinkless⟩

variable (o : Outside W) (l : Live α W)

theorem sinkless_next? (number : ℕ) : l.sinkless.next? number = (l.next? number).map fun given => (given.1.sinkless, given.2) := by
  have next (s : Stream α W) : s.sinkless.next? = s.next? := rfl
  unfold next?
  simp only [sinkless, List.getElem?_map]
  cases l.streams[number]? with
  | none => rfl
  | some s =>
    simp only [Option.map_some, Option.bind_eq_bind, Option.bind_some, next]
    cases s.next? <;> rfl

theorem sinkless_opened? (t : Turn) : l.sinkless.opened? o t = (l.opened? o t).map Stream.sinkless := by
  cases t with
  | request | reload | drain | shutDown => rfl
  | inbound now requestId caller r =>
    exact Stream.sinkless_opened ⟨o, l.service.gateway, l.service.world, now, requestId, caller, r⟩

/-- what is seen of a happening is the same without sinks -/
theorem sinkless_scene (h : Happening) : l.sinkless.scene o h = l.scene o h := by
  cases h with
  | turn t =>
    have pieces := l.service.sinkless_sent o t
    cases t with
    | request now requestId r =>
      obtain ⟨answer, forwarded, -⟩ := l.service.sinkless_request o now requestId r
      simp only [scene, sinkless, answer, forwarded, pieces]
    | inbound now requestId caller r =>
      let p : Passage α W := ⟨o, l.service.gateway, l.service.world, now, requestId, caller, r⟩
      have answer : l.service.sinkless.seen? o (.inbound now requestId caller r) = l.service.seen? o (.inbound now requestId caller r) :=
        congrArg (fun told => some (Response.ofHandled told)) p.sinkless_told
      have forwarded : l.service.sinkless.forwards o (.inbound now requestId caller r) =
          l.service.forwards o (.inbound now requestId caller r) :=
        congrArg (·.2.forwarded) p.sinkless_handled
      simp only [scene, sinkless, answer, forwarded, pieces]
    | reload | drain | shutDown => rfl
  | take number =>
    simp only [scene, sent, sinkless_next?]
    cases l.next? number <;> rfl

theorem sinkless_step (h : Happening) : l.sinkless.step o h = (l.step o h).sinkless := by
  cases h with
  | turn t =>
    have opened := l.sinkless_opened? o t
    refine congrArg₂ Live.mk (l.service.sinkless_step o t) ?_
    rw [opened, Option.toList_map]
    exact List.map_append.symm
  | take number =>
    simp only [step, sinkless_next?]
    cases l.next? number with
    | none => rfl
    | some given =>
      have relayed := l.service.gateway.sinkless_relay { given.1.reply with body := [.data given.2] }
      refine congrArg₂ Live.mk (congrArg (fun gateway => Service.mk gateway l.service.world) relayed.symm) ?_
      exact (List.map_set (f := Stream.sinkless) (l := l.streams) (i := number) (a := given.1.advanced)).symm

/-- **A run goes as it does without sinks**, -/
theorem sinkless_run (hs : List Happening) : l.sinkless.run o hs = (l.run o hs).sinkless := by
  induction hs generalizing l with
  | nil => rfl
  | cons h hs ih => rw [run_cons, run_cons, sinkless_step, ih]

/-- and so is all that is seen of it. -/
theorem sinkless_scenes (hs : List Happening) : l.sinkless.scenes o hs = l.scenes o hs := by
  induction hs generalizing l with
  | nil => rfl
  | cons h hs ih => rw [scenes, scenes, sinkless_scene, sinkless_step, ih]

theorem sinkless_records (hs : List Happening) : l.sinkless.records o hs = l.records o hs := by
  have recorded (l : Live α W) (h : Happening) : l.sinkless.recorded o h = l.recorded o h := by
    cases h with
    | turn t => exact l.service.sinkless_recorded o t
    | take number => rfl
  induction hs generalizing l with
  | nil => rfl
  | cons h hs ih => rw [records, records, recorded, sinkless_step, ih]

/-- **Sinks only listen.** A gateway is built with any sinks, which take or refuse each record as they like, and the same gateway without
them, over the same world; and the same comes to both: requests, callers who leave or take bodies, reloads. Then all that callers and
backends see is the same, one happening after another, and so is what is left: the world, the limiter, the cache and all metrics but those
of refused records. Each sink was given the records of the requests, all of them once and in their order, the two sinks that are always
there as well, which log and count them. Under a name as many refusals are counted, modulo 2^64, as sinks of this name have refused records,
each for itself. -/
theorem sinks_only_listen {config : Config} {source : Option String} {backends : List Category} {sinks : List Sink} {start : Gateway α}
    (built : Gateway.build config source backends sinks = .ok start) (o : Outside W) (world : W) (hs : List Happening) :
    ∃ plain : Gateway α, Gateway.build config source backends [] = .ok plain ∧
      let l : Live α W := ⟨⟨start, world⟩, []⟩
      let l' : Live α W := ⟨⟨plain, world⟩, []⟩
      let last := (l.run o hs).service
      let last' := (l'.run o hs).service
      let records := l.records o hs
      l.scenes o hs = l'.scenes o hs ∧ last.world = last'.world ∧
      last.gateway.limiter = last'.gateway.limiter ∧ last.gateway.cache = last'.gateway.cache ∧
      last.gateway.diagnostics.metrics.untallied = last'.gateway.diagnostics.metrics ∧ last.gateway.sinkless = last'.gateway ∧
      records = l'.records o hs ∧
      last.gateway.diagnostics.sinks = sinks.map (fun s => ⟨s, records⟩) ∧
      last.gateway.diagnostics.events = records.flatMap Record.events ∧
      last.gateway.diagnostics.metrics.recorded = (Metrics.ofRecords records).recorded ∧
      ∀ name, (last.gateway.diagnostics.metrics.dropped.get [("sink", name)]).toNat =
        ((sinks.filter (·.name = name)).map fun s => s.refusals [] records).sum % 2 ^ 64 := by
  refine ⟨start.sinkless, Gateway.sinkless_build built, ?_⟩
  intro l l' last last' records
  have plain : l' = l.sinkless := rfl
  have left : last' = last.sinkless := congrArg Live.service (l.sinkless_run o hs)
  have begun : start.diagnostics = .start sinks := by
    obtain ⟨-, -, -, -, -, -, -, rfl⟩ := Gateway.build_eq_ok_iff.1 built
    rfl
  obtain ⟨logged, counted, given, dropped⟩ : Heard (.start sinks) last.gateway.diagnostics records := begun ▸ l.heard_run o hs
  rw [left, plain, sinkless_scenes, sinkless_records]
  refine ⟨rfl, rfl, rfl, rfl, rfl, rfl, rfl, ?_, logged, counted, fun name => ?_⟩
  · rw [given]
    simp only [giving, Diagnostics.start, List.map_map, Function.comp_def, List.nil_append]
  · have refusals : refused name (Diagnostics.start sinks).sinks records =
        ((sinks.filter (·.name = name)).map fun s => s.refusals [] records).sum := by
      simp only [refused, Diagnostics.start, List.filter_map, List.map_map, Function.comp_def]
    have none : (Diagnostics.start sinks).metrics.dropped.get [("sink", name)] = 0 := rfl
    rw [dropped, refusals, none, UInt64.zero_add, UInt64.toNat_ofNat']

/-- sinks of which two share a name: one refuses every other record, one all but the first, and one none -/
def audits : List Sink :=
  [⟨"audit", fun before _ => before.length % 2 = 0⟩, ⟨"audit", fun before _ => before.isEmpty⟩, ⟨"archive", fun _ _ => true⟩]

/-- three requests, of which one is of nobody, and a reload between them -/
def threeRequests : List Happening :=
  [.turn (.inbound 0 "first" {} ⟨"acme", "POST", "/openai/chat", .empty, []⟩),
    .turn (.inbound 1 "second" {} ⟨"nobody", "POST", "/openai/chat", .empty, []⟩),
    .turn (.reload (Gateway.withBudget 50)),
    .turn (.inbound 2 "third" {} ⟨"acme", "POST", "/openai/chat", .empty, []⟩)]

/-- **Three records and three sinks.** One record is refused by one of the sinks of a name, and two by the other. -/
theorem sinks_only_listen_audits :
    let start : Gateway ℚ := { Gateway.tenRequestsGateway with diagnostics := .start audits }
    Gateway.build Gateway.tenRequests (some "static") [.openai] audits = .ok start ∧
      let l : Live ℚ Unit := ⟨⟨start, ()⟩, []⟩
      let last := (l.run Gateway.obliging threeRequests).service
      last.gateway.diagnostics.sinks.map (fun s => s.given.map (·.requestId)) =
          [["first", "second", "third"], ["first", "second", "third"], ["first", "second", "third"]] ∧
        (last.gateway.diagnostics.metrics.dropped.get [("sink", "audit")]).toNat = 3 ∧
        (last.gateway.diagnostics.metrics.dropped.get [("sink", "archive")]).toNat = 0 := by
  intro start
  have built : Gateway.build Gateway.tenRequests (some "static") [.openai] audits = .ok start := rfl
  obtain ⟨plain, -, -, -, -, -, -, -, -, given, -, -, dropped⟩ := sinks_only_listen built Gateway.obliging () threeRequests
  have ids : ((Live.mk ⟨start, ()⟩ []).records Gateway.obliging threeRequests).map (·.requestId) = ["first", "second", "third"] := by
    decide +kernel
  refine ⟨built, ?_, (dropped "audit").trans ?_, (dropped "archive").trans ?_⟩
  · rw [given]
    simp only [List.map_map, Function.comp_def, ids]
    rfl
  · decide +kernel
  · decide +kernel

end Live

end TenantGateway
