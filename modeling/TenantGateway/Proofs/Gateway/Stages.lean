/-
The stages of a request, and its one record.

A stage is changed by two calls (`StageCall`). Whatever calls are made, the stages entered follow one order and may end in a failure
before its last (`Stage.entered_ordered`). Handling a request makes its calls at many places: `Course.walked_error` and
`Course.walked_ok` say of every way through the gates how far along the order it has come, and `walked_and_recorded` what that comes
to at the end, when the request is recorded. What its record says is told by the passage alone (`Passage.RecordedAs`).
-/
import TenantGateway.Proofs.Gateway.Backends
import TenantGateway.Proofs.Gateway.ForwardedHeaders
import TenantGateway.Proofs.Gateway.Recorded

namespace TenantGateway

/-! ## Calls -/

/-- a call that is made to change the stage of a request -/
inductive StageCall where
  | advance (next : Stage)
  | fail (code : ErrorCode)
  deriving DecidableEq, Repr

namespace Stage

/-- the stages of a request that gets an answer -/
def order : List Stage := [.received, .matched, .authenticated, .rateChecked, .dispatched, .completed]

/-- the stages that come after one in the order -/
def following (s : Stage) : List Stage := (order.dropWhile (· ≠ s)).tail

/-- the stage after a call -/
def call (s : Stage) : StageCall → Stage
  | .advance next => (s.advance next).1
  | .fail code => s.fail code

/-- the stages that calls enter, one after another; a call without effect enters none -/
def entered (s : Stage) : List StageCall → List Stage
  | [] => []
  | c :: calls => if s.call c = s then s.entered calls else s.call c :: (s.call c).entered calls

variable {s next : Stage}

theorem following_of_next (follows : s.next? = some next) : s.following = next :: next.following := by
  cases s <;> cases follows <;> rfl

theorem following_ne_nil (running : s.isTerminal = false) : s.following ≠ [] := by
  cases s <;> simp_all [following, order, isTerminal]

theorem next?_of_terminal (ended : s.isTerminal = true) : s.next? = none := by
  cases s <;> simp_all [isTerminal, next?]

theorem call_of_next (follows : s.next? = some next) : s.call (.advance next) = next := by
  rw [call, advance, if_pos follows]

theorem advance_of_refused (refused : (s.advance next).2 = false) : (s.advance next).1 = s := by
  unfold advance at *
  split_ifs at *
  rfl

/-- an end is final -/
theorem call_of_terminal (ended : s.isTerminal = true) (c : StageCall) : s.call c = s := by
  cases c with
  | advance next =>
    have refused : (s.advance next).2 = false := by simp [advance, next?_of_terminal ended]
    exact advance_of_refused refused
  | fail code => exact if_pos ended

theorem entered_of_next (follows : s.next? = some next) (calls : List StageCall) :
    s.entered (.advance next :: calls) = next :: next.entered calls := by
  have moved : next ≠ s := by
    rintro rfl
    cases next <;> cases follows
  rw [entered, call_of_next follows, if_neg moved]

theorem entered_of_terminal (ended : s.isTerminal = true) (calls : List StageCall) : s.entered calls = [] := by
  induction calls with
  | nil => rfl
  | cons c calls ih => rw [entered, if_pos (call_of_terminal ended c), ih]

theorem entered_fail (running : s.isTerminal = false) (code : ErrorCode) (calls : List StageCall) :
    s.entered (.fail code :: calls) = [.errored code] := by
  have failed : s.call (.fail code) = .errored code := if_neg (by simp [running])
  have moved : Stage.errored code ≠ s := by
    rintro rfl
    cases running
  rw [entered, failed, if_neg moved, entered_of_terminal rfl]

/-- **The stages that calls enter**, whatever they are: some that follow in the order, one after another, and then perhaps a failure, unless
the order has come to its end. -/
theorem entered_ordered (s : Stage) (calls : List StageCall) :
    ∃ passed failed, s.entered calls = passed ++ failed ∧ passed <+: s.following ∧
      (failed = [] ∨ passed ≠ s.following ∧ ∃ code, failed = [.errored code]) := by
  induction calls generalizing s with
  | nil => exact ⟨[], [], rfl, List.nil_prefix, .inl rfl⟩
  | cons c calls ih =>
    by_cases same : s.call c = s
    · -- the call is without effect
      rw [entered, if_pos same]
      exact ih s
    have running : s.isTerminal = false := by
      by_contra ended
      exact same (call_of_terminal (by simpa using ended) c)
    cases c with
    | advance next =>
      have follows : s.next? = some next := by
        by_contra other
        exact same (by rw [call, advance, if_neg other])
      obtain ⟨passed, failed, entered, ordered, last⟩ := ih next
      rw [entered_of_next follows, entered, following_of_next follows]
      refine ⟨next :: passed, failed, rfl, (List.prefix_cons_inj next).2 ordered, ?_⟩
      exact last.imp_right fun ⟨short, code⟩ => ⟨fun all => short (List.cons.inj all).2, code⟩
    | fail code =>
      rw [entered_fail running]
      exact ⟨[], [.errored code], rfl, List.nil_prefix, .inr ⟨(following_ne_nil running).symm, code, rfl⟩⟩

/-- a stage that is left out is not entered, and neither is one after a failure -/
example : Stage.received.entered [.advance .matched, .advance .dispatched, .fail .throttled, .advance .authenticated] =
    [.matched, .errored .throttled] := by
  decide

theorem isTerminal_of_early {n : ℕ} (early : n < 5) (reached : order[n]? = some s) : s.isTerminal = false := by
  interval_cases n <;> cases reached <;> rfl

end Stage

namespace RequestContext

/-- the context after a call -/
def call (c : RequestContext) : StageCall → RequestContext
  | .advance next => c.advance next
  | .fail code => c.fail code

/-- the context after a list of calls -/
def calls (c : RequestContext) (l : List StageCall) : RequestContext := l.foldl call c

variable (c : RequestContext)

theorem call_eq (x : StageCall) : c.call x = { c with stage := c.stage.call x } := by
  cases x <;> rfl

/-- a refused advance changes nothing -/
theorem advance_of_refused (next : Stage) (refused : (c.stage.advance next).2 = false) : c.advance next = c := by
  rw [advance, Stage.advance_of_refused refused]

theorem calls_of_terminal (ended : c.stage.isTerminal = true) (l : List StageCall) : c.calls l = c := by
  induction l with
  | nil => rfl
  | cons x l ih =>
    have unchanged : c.call x = c := by rw [call_eq, Stage.call_of_terminal ended]
    rw [calls, List.foldl_cons, unchanged]
    exact ih

end RequestContext

/-! ## What a record is given to -/

/-- one record was given out: it is logged, every sink has it, and it is counted -/
structure Diagnostics.GivenOne (before after : Diagnostics) (r : Record) : Prop where
  logged : after.events = before.events ++ r.events
  given : after.sinks = before.sinks.map fun s => { s with given := s.given ++ [r] }
  counted : Metrics.SameTraffic (before.metrics.count r) after.metrics

namespace Gateway

variable {α : Type} [Quantity α]

/-- reloads are counted, and nobody is told of them -/
theorem reloadAll_untold (g : Gateway α) (configs : List Config) :
    (g.reloadAll configs).diagnostics.events = g.diagnostics.events ∧
      (g.reloadAll configs).diagnostics.sinks = g.diagnostics.sinks := by
  induction configs generalizing g with
  | nil => exact ⟨rfl, rfl⟩
  | cons next configs ih =>
    have step : (g.reload next).1.diagnostics.events = g.diagnostics.events ∧
        (g.reload next).1.diagnostics.sinks = g.diagnostics.sinks := by
      rw [reload_eq]
      cases checkTenants next.tenants g.registry.requestCost <;> exact ⟨rfl, rfl⟩
    obtain ⟨events, sinks⟩ := ih (g.reload next).1
    exact ⟨events.trans step.1, sinks.trans step.2⟩

end Gateway

/-- a flight has gone through the stages up to the one with this number, and every move was made -/
structure Flight.Walked {α W : Type} (f : Flight α W) (n : ℕ) : Prop where
  moves : f.moves = (Stage.order.tail.take n).map (·, true)
  stage : Stage.order[n]? = some f.context.stage

namespace Passage

variable {α W : Type} [Quantity α] {p : Passage α W} {f : Flight α W} {r : Except GatewayError Response}

/-! ## How far a request comes -/

/-- a request that fails has come to one of the stages before the last -/
theorem Course.walked_error {e : GatewayError} (course : p.Course (.error e) f) : ∃ n < 5, f.Walked n := by
  cases course with
  | unknown | disabled | unmatched => exact ⟨0, by decide, rfl, rfl⟩
  | barred | uncredited | unsendable => exact ⟨1, by decide, rfl, rfl⟩
  | left | revoked | throttled => exact ⟨2, by decide, rfl, rfl⟩
  | leftPaid | unplaced | leftPlaced | failed => exact ⟨3, by decide, rfl, rfl⟩

/-- a request that is answered has come to the last but one -/
theorem Course.walked_ok {a : Response} (course : p.Course (.ok a) f) : f.Walked 4 := by
  cases course with
  | answered => exact ⟨rfl, rfl⟩

/-- nobody is told of a request while it is on its way -/
theorem Course.untold (course : p.Course r f) :
    f.gateway.diagnostics.events = p.gateway.diagnostics.events ∧
      f.gateway.diagnostics.sinks = p.gateway.diagnostics.sinks := by
  have supplied := p.gateway.reloadAll_untold p.tokenLoads
  cases course with
  | unknown | disabled | unmatched | barred => exact ⟨rfl, rfl⟩
  | uncredited | unsendable | left | revoked | throttled | leftPaid | unplaced | leftPlaced => exact supplied
  | @failed t token | @answered t token =>
    have late := (p.charged t).reloadAll_untold (p.backendCall (p.outgoing t token)).reloads
    exact ⟨late.1.trans supplied.1, late.2.trans supplied.2⟩

/-- **A handled request is recorded once**, by its record. -/
theorem handled_givenOne (p : Passage α W) :
    Diagnostics.GivenOne p.gateway.diagnostics p.handled.2.gateway.diagnostics p.record where
  logged := by
    rw [p.handled_eq, Flight.closed_diagnostics, ← p.ended_course.untold.1]
    rfl
  given := by
    rw [p.handled_eq, Flight.closed_diagnostics, ← p.ended_course.untold.2]
    exact Diagnostics.distribute_sinks ..
  counted := p.handled_traffic

/-! ## The calls of a handled request -/

/-- the calls that are made while a request is handled: it advances, and it may fail at the end -/
def stageCalls (p : Passage α W) : List StageCall :=
  p.handled.2.moves.map (fun m => .advance m.1) ++
    match p.handled.1 with
    | .ok _ => []
    | .error e => [.fail e.error.code]

/-- the stages of a request, from its receipt on -/
def stages (p : Passage α W) : List Stage := .received :: Stage.received.entered p.stageCalls

/-- a reply is what is made of a backend's answer, and comes when the last stage is reached -/
theorem handled_ok {reply : Reply} (told : p.handled.1 = .ok reply) :
    p.handled.2.Walked 5 ∧ ∃ sent answer, p.handled.2.forwarded = [(p.category, sent)] ∧ p.outcome sent = .ok answer ∧
      p.ended.1 = .ok answer ∧ reply.status = answer.status := by
  have course := p.ended_course
  rw [p.handled_eq] at told ⊢
  cases ended : p.ended.1 with
  | error e =>
    rw [ended] at told
    cases told
  | ok answer =>
    rw [ended] at told course
    obtain ⟨moves, stage⟩ := course.walked_ok
    obtain ⟨sent, forwarded, outcome⟩ := course.outcome_ok
    have dispatched : p.ended.2.context.stage = .dispatched := (Option.some.inj stage).symm
    cases told
    refine ⟨⟨?_, ?_⟩, sent, answer, forwarded, outcome, rfl, rfl⟩
    · change p.ended.2.moves ++ [(Stage.completed, (p.ended.2.context.stage.advance .completed).2)] = _
      rw [moves, dispatched]
      rfl
    · change _ = some (p.ended.2.context.stage.advance .completed).1
      rw [dispatched]
      rfl

theorem handled_error {e : ErrorReply} (told : p.handled.1 = .error e) :
    p.ended.1 = .error e.error ∧ p.handled.2.context.stage = .errored e.error.code ∧
      ∃ n < 5, p.handled.2.moves = (Stage.order.tail.take n).map (·, true) := by
  have course := p.ended_course
  rw [p.handled_eq] at told ⊢
  cases ended : p.ended.1 with
  | ok answer =>
    rw [ended] at told
    cases told
  | error cause =>
    rw [ended] at told course
    obtain ⟨n, early, moves, stage⟩ := course.walked_error
    have running := Stage.isTerminal_of_early early stage
    cases told
    exact ⟨rfl, if_neg (by simp [running]), n, early, moves⟩

theorem stages_ok {reply : Reply} (told : p.handled.1 = .ok reply) : p.stages = Stage.order := by
  have moves : p.handled.2.moves = _ := (handled_ok told).1.moves
  rw [stages, stageCalls, told, moves]
  rfl

theorem stages_error {e : ErrorReply} (told : p.handled.1 = .error e) :
    ∃ n < 5, p.stages = Stage.order.take (n + 1) ++ [.errored e.error.code] := by
  obtain ⟨-, -, n, early, moves⟩ := handled_error told
  refine ⟨n, early, ?_⟩
  rw [stages, stageCalls, told, moves]
  interval_cases n <;> rfl

theorem moves_made (p : Passage α W) : ∀ move ∈ p.handled.2.moves, move.2 = true := by
  have all : ∃ stages : List Stage, p.handled.2.moves = stages.map (·, true) := by
    cases result : p.handled.1 with
    | ok reply => exact ⟨_, (handled_ok result).1.moves⟩
    | error e =>
      obtain ⟨-, -, n, -, moves⟩ := handled_error result
      exact ⟨_, moves⟩
  obtain ⟨stages, moves⟩ := all
  rw [moves]
  rintro _ member
  obtain ⟨s, -, rfl⟩ := List.mem_map.1 member
  rfl

/-! ## What is recorded -/

omit [Quantity α] in
/-- the tenant of a request, if it is enabled: only then is the request tagged, and looked up among the routes -/
def enabled? (p : Passage α W) : Option Tenant := p.tenant?.filter (·.enabled)

omit [Quantity α] in
theorem enabled?_eq_some {t : Tenant} (found : p.tenant? = some t) (enabled : t.enabled = true) : p.enabled? = some t := by
  simp [enabled?, found, enabled]

/-- a record says of a passage what there is to say, its end apart: whose request it was, under which names it is counted, what the
limiter left, how long it took -/
structure RecordedAs (p : Passage α W) (record : Record) : Prop where
  requestId : record.requestId = p.requestId
  /-- as the caller has named the tenant -/
  tenantId : record.tenantId = p.request.tenantId
  tenantLabel : record.tenantLabel = (p.tenant?.map (·.id)).getD "unknown"
  category : record.category = (p.enabled?.map fun _ => p.category.name).getD "none"
  remaining : ∀ left, record.remaining = some left ↔
    p.decision? = some (.admitted left) ∨ ∃ retryAfter, p.decision? = some (.throttled left retryAfter)
  latency : p.now + record.latency = p.handled.2.now
  usageLogging : record.usageLogging = true ↔ ∃ t, p.tenant? = some t ∧ t.policy.usageLogging = true
  tags : record.tags = (p.enabled?.map (·.policy.tags)).getD []

/-- with the stage and the outcome that is all a record has -/
theorem RecordedAs.eq {record other : Record} (said : p.RecordedAs record) (said' : p.RecordedAs other)
    (stage : record.stage = other.stage) (outcome : record.outcome = other.outcome) : record = other := by
  have remaining : record.remaining = other.remaining :=
    Option.ext fun left => (said.remaining left).trans (said'.remaining left).symm
  have latency : record.latency = other.latency := Nat.add_left_cancel (said.latency.trans said'.latency.symm)
  have usageLogging : record.usageLogging = other.usageLogging :=
    Bool.eq_iff_iff.2 (said.usageLogging.trans said'.usageLogging.symm)
  cases record
  cases other
  simp only [Record.mk.injEq]
  exact ⟨said.requestId.trans said'.requestId.symm, said.tenantId.trans said'.tenantId.symm,
    said.tenantLabel.trans said'.tenantLabel.symm, said.category.trans said'.category.symm, stage, remaining, outcome, latency,
    usageLogging, said.tags.trans said'.tags.symm⟩

/-- what is known of a request at its end -/
theorem Course.context (course : p.Course r f) :
    f.context.requestId = p.requestId ∧ f.context.tenantId = p.request.tenantId ∧ f.context.started = p.now ∧
      f.context.category = p.enabled?.map (fun _ => p.category) ∧ f.context.tags = (p.enabled?.map (·.policy.tags)).getD [] := by
  cases course with
  | unknown none =>
    have barred : p.enabled? = .none := by simp [enabled?, none]
    rw [barred]
    exact ⟨rfl, rfl, rfl, rfl, rfl⟩
  | disabled found disabled =>
    have barred : p.enabled? = .none := by simp [enabled?, found, disabled]
    rw [barred]
    exact ⟨rfl, rfl, rfl, rfl, rfl⟩
  | unmatched found enabled | barred found enabled =>
    rw [enabled?_eq_some found enabled]
    exact ⟨rfl, rfl, rfl, rfl, rfl⟩
  | uncredited letIn | unsendable letIn =>
    rw [enabled?_eq_some letIn.found letIn.enabled]
    exact ⟨rfl, rfl, rfl, rfl, rfl⟩
  | left authorized | revoked authorized | throttled authorized =>
    rw [enabled?_eq_some authorized.found authorized.enabled]
    exact ⟨rfl, rfl, rfl, rfl, rfl⟩
  | leftPaid paid | unplaced paid =>
    rw [enabled?_eq_some paid.found paid.enabled]
    exact ⟨rfl, rfl, rfl, rfl, rfl⟩
  | leftPlaced placed | failed placed | answered placed =>
    rw [enabled?_eq_some placed.found placed.enabled]
    exact ⟨rfl, rfl, rfl, rfl, rfl⟩

omit [Quantity α] in
theorem now_le_tokenInstant (p : Passage α W) : p.now ≤ p.tokenInstant := by
  unfold tokenInstant
  split_ifs
  · exact Nat.le_add_right ..
  · exact le_rfl

theorem Course.now_le (course : p.Course r f) : p.now ≤ f.now := by
  cases course with
  | unknown | disabled | unmatched | barred => exact le_rfl
  | uncredited | unsendable | left | revoked | throttled | leftPaid | unplaced | leftPlaced => exact p.now_le_tokenInstant
  | failed | answered => exact p.now_le_tokenInstant.trans (Nat.le_add_right ..)

theorem record_stage (p : Passage α W) : p.record.stage = p.handled.2.context.stage.name := by
  rw [p.handled_eq, record]
  cases p.ended.1 <;> rfl

/-- **What a record says**, its end apart. -/
theorem recordedAs_record (p : Passage α W) : p.RecordedAs p.record := by
  have course := p.ended_course
  obtain ⟨requestId, tenantId, started, category, tags⟩ := course.context
  obtain ⟨id, named, routed, took, logged, tagged⟩ := p.ended.2.summary_context p.ended.1
  have last : p.handled.2.now = p.ended.2.now := by
    rw [p.handled_eq]
    cases p.ended.1 <;> rfl
  refine ⟨id.trans requestId, named.trans tenantId, p.record_tenantLabel, ?_, ?_, ?_, ?_, tagged.trans tags⟩
  · refine routed.trans ?_
    rw [category, Option.map_map]
    rfl
  · intro left
    rw [p.record_remaining]
    exact remaining_decision?_eq_some_iff
  · have elapsed : p.record.latency = p.ended.2.now - p.now := started ▸ took
    rw [elapsed, last]
    exact Nat.add_sub_cancel' course.now_le
  · have usage : p.record.usageLogging = p.tenant?.any (·.policy.usageLogging) := course.tenant ▸ logged
    rw [usage, Option.any_eq_true]

/-- a record is made when its request has come to its end, and tells of that end -/
theorem record_ending (p : Passage α W) :
    match p.handled.1 with
    | .ok reply => p.record.stage = "completed" ∧ p.record.outcome = .success reply.status
    | .error e => p.record.stage = "errored" ∧ p.record.outcome = .error e.error.code := by
  cases result : p.handled.1 with
  | ok reply =>
    obtain ⟨walked, -, answer, -, -, ended, status⟩ := handled_ok result
    have completed : p.handled.2.context.stage = .completed := (Option.some.inj walked.stage).symm
    rw [p.record_stage, completed, record, ended]
    exact ⟨rfl, congrArg Outcome.success status.symm⟩
  | error e =>
    obtain ⟨ended, errored, -⟩ := handled_error result
    rw [p.record_stage, errored, record, ended]
    exact ⟨rfl, rfl⟩

/-- **One way to one end, and one record.** Take any passage of a request through the gateway: any gateway and tenant, any token
source and backend, any caller. Every move to a next stage is made. The stages from the receipt on are some of the order, up to one
of them, and then the failure that the caller is told of, if there is one; the last of the order is reached exactly if there is a
reply, and the last of them is where the request is at the end. Then one record is given out. It tells whose request it was, what
the limiter left and how long it took; it has the last stage; and its outcome is the status that the backend answered with, or the
code of the failure. Nothing that is called on a request could make this otherwise: an advance that is refused changes nothing,
nothing changes a request that has come to an end, and the stages that calls enter follow the order, whatever the calls are. -/
theorem walked_and_recorded (p : Passage α W) :
    (∀ move ∈ p.handled.2.moves, move.2 = true) ∧
    (∃ passed, passed <+: Stage.order ∧
      p.stages = passed ++
        match p.handled.1 with
        | .ok _ => []
        | .error e => [.errored e.error.code]) ∧
    (Stage.completed ∈ p.stages ↔ ∃ reply, p.handled.1 = .ok reply) ∧
    p.stages.getLast? = some p.handled.2.context.stage ∧ p.handled.2.context.stage.isTerminal = true ∧
    (∃ record,
      Diagnostics.GivenOne p.gateway.diagnostics p.handled.2.gateway.diagnostics record ∧ p.RecordedAs record ∧
      match p.handled.1 with
      | .ok reply =>
        (record.stage = "completed" ∧ record.outcome = .success reply.status) ∧
          ∃ sent answer, p.handled.2.forwarded = [(p.category, sent)] ∧ p.outcome sent = .ok answer ∧
            reply.status = answer.status
      | .error e => record.stage = "errored" ∧ record.outcome = .error e.error.code) ∧
    ∀ (c : RequestContext) (l : List StageCall),
      (∀ next, ((c.calls l).stage.advance next).2 = false → (c.calls l).advance next = c.calls l) ∧
      ((c.calls l).stage.isTerminal = true → ∀ more, (c.calls l).calls more = c.calls l) ∧
      ∃ passed failed, c.stage.entered l = passed ++ failed ∧ passed <+: c.stage.following ∧
        (failed = [] ∨ passed ≠ c.stage.following ∧ ∃ code, failed = [.errored code]) := by
  have given := p.handled_givenOne
  have recorded := p.recordedAs_record
  have ending := p.record_ending
  have after (c : RequestContext) (l : List StageCall) :=
    And.intro (fun next => (c.calls l).advance_of_refused next)
      (And.intro (c.calls l).calls_of_terminal (c.stage.entered_ordered l))
  cases result : p.handled.1 with
  | ok reply =>
    obtain ⟨walked, sent, answer, forwarded, answered, -, status⟩ := handled_ok result
    have stages := stages_ok result
    have completed : p.handled.2.context.stage = .completed := (Option.some.inj walked.stage).symm
    rw [result] at ending
    refine ⟨p.moves_made, ⟨Stage.order, List.prefix_rfl, ?_⟩, ?_, ?_, ?_, ⟨p.record, given, recorded, ending, ?_⟩, after⟩
    · rw [stages, List.append_nil]
    · simp [stages, Stage.order]
    · rw [stages, completed]
      rfl
    · rw [completed]
      rfl
    · exact ⟨sent, answer, forwarded, answered, status⟩
  | error e =>
    obtain ⟨-, errored, -⟩ := handled_error result
    obtain ⟨n, early, stages⟩ := stages_error result
    rw [result] at ending
    refine ⟨p.moves_made, ⟨Stage.order.take (n + 1), List.take_prefix _ _, stages⟩, ?_, ?_, ?_, ?_, after⟩
    · rw [stages]
      interval_cases n <;> simp [Stage.order]
    · rw [stages, errored, List.getLast?_append]
      rfl
    · rw [errored]
      rfl
    · exact ⟨p.record, given, recorded, ending⟩

/-- a gateway with a sink, and with a tenant whose policy asks for more than the usual -/
def auditedGateway : Gateway ℚ :=
  { Gateway.sample with
    registry := ⟨⟨[.ofConfig { id := "acme", policy := { piiRedaction := { enabled := true }, usageLogging := true } }], 1⟩, 1⟩
    diagnostics := .start [⟨"audit", fun _ _ => true⟩] }

/-- a request there, whose backend answers late or never; there are thirty seconds for it -/
def audited (delay : Option ℕ) : Passage ℚ Unit :=
  { outside :=
      { fetch := Gateway.sampleOutside.fetch
        forward := fun w _ _ => ({ answer := .ok ⟨503, .empty, []⟩, delay }, w) }
    gateway := auditedGateway
    world := ()
    now := 5
    requestId := "id"
    caller := {}
    request := ⟨"acme", "POST", "/openai/chat", .empty, []⟩ }

/-- what the sink is to be given -/
def auditRecord (stage : String) (outcome : Outcome) (latency : ℕ) : Record :=
  { requestId := "id", tenantId := "acme", tenantLabel := "acme", category := "openai", stage, remaining := some 999, outcome, latency
    usageLogging := true, tags := [("pii_redaction", "fail_closed")] }

theorem recordedAs_auditRecord {delay : Option ℕ} {stage : String} {outcome : Outcome} {latency : ℕ}
    (admitted : (audited delay).decision? = some (.admitted 999)) (ended : (audited delay).handled.2.now = 5 + latency) :
    (audited delay).RecordedAs (auditRecord stage outcome latency) := by
  let tenant : Tenant := .ofConfig { id := "acme", policy := { piiRedaction := { enabled := true }, usageLogging := true } }
  have known : auditedGateway.registry.current.get? "acme" = some tenant := by decide +kernel
  have found : (audited delay).tenant? = some tenant := known
  have served : (audited delay).enabled? = some tenant := enabled?_eq_some found rfl
  have openai : auditedGateway.settings.routes.classify "/openai/chat" = .openai := by decide +kernel
  have category : (audited delay).category = .openai := openai
  refine ⟨rfl, rfl, ?_, ?_, fun left => ?_, ended.symm, ?_, ?_⟩
  · rw [found]
    rfl
  · rw [served, category]
    rfl
  · rw [admitted]
    simp [auditRecord, eq_comm]
  · rw [found]
    simp [auditRecord, tenant, Tenant.ofConfig]
  · rw [served]
    rfl

/-- what is known of the gateway after its first record -/
theorem heard_first {p : Passage ℚ Unit} {record : Record} (first : p.gateway = auditedGateway)
    (given : Diagnostics.GivenOne p.gateway.diagnostics p.handled.2.gateway.diagnostics record) :
    p.handled.2.gateway.diagnostics.sinks.map (·.given) = [[record]] ∧
      p.handled.2.gateway.diagnostics.events = record.events ∧
      p.handled.2.gateway.diagnostics.metrics.requests = (auditedGateway.diagnostics.metrics.count record).requests := by
  refine ⟨?_, ?_, ?_⟩
  · rw [given.given, first]
    rfl
  · rw [given.logged, first]
    rfl
  · rw [given.counted.requests, first]

/-- **Answered, and not in time.** An answer of 503 is a success like any other, and all stages are gone through; where there is no
answer, the failure comes after the fourth of them. Both are recorded, logged and counted once, and the first is logged for its use
as well. -/
theorem walked_and_recorded_audited :
    let answered := (audited (some 7)).handled.2.gateway.diagnostics
    let late := (audited none).handled.2.gateway.diagnostics
    (audited (some 7)).stages = Stage.order ∧
      answered.sinks.map (·.given) = [[auditRecord "completed" (.success 503) 7]] ∧
      answered.events.map (·.message) = ["request completed", "usage"] ∧ answered.metrics.requests.total (fun _ => true) = 1 ∧
      (audited none).stages = [.received, .matched, .authenticated, .rateChecked, .errored .backendTimeout] ∧
      late.sinks.map (·.given) = [[auditRecord "errored" (.error .backendTimeout) 30000000000]] ∧
      late.events.map (·.message) = ["request failed"] ∧ late.metrics.requests.total (fun _ => true) = 1 := by
  have replied : (audited (some 7)).handled.1.toOption.map (·.status) = some 503 := by decide +kernel
  have failed : (audited none).toldFailure? = some (.backendTimeout 30000) := by decide +kernel
  have first : (audited (some 7)).RecordedAs (auditRecord "completed" (.success 503) 7) :=
    recordedAs_auditRecord (by decide +kernel) (by decide +kernel)
  have second : (audited none).RecordedAs (auditRecord "errored" (.error .backendTimeout) 30000000000) :=
    recordedAs_auditRecord (by decide +kernel) (by decide +kernel)
  obtain ⟨-, -, -, -, -, ⟨record, given, said, ending⟩, -⟩ := walked_and_recorded (audited (some 7))
  obtain ⟨-, -, -, -, -, ⟨record', given', said', ending'⟩, -⟩ := walked_and_recorded (audited none)
  obtain ⟨sinks, events, requests⟩ := heard_first rfl given
  obtain ⟨sinks', events', requests'⟩ := heard_first rfl given'
  have same : record = auditRecord "completed" (.success 503) 7 := by
    cases told : (audited (some 7)).handled.1 with
    | error e => simp [told, Except.toOption] at replied
    | ok reply =>
      rw [told] at ending replied
      obtain ⟨⟨stage, outcome⟩, -⟩ := ending
      have status : reply.status = 503 := Option.some.inj replied
      exact said.eq first stage (outcome.trans (congrArg _ status))
  have same' : record' = auditRecord "errored" (.error .backendTimeout) 30000000000 := by
    obtain ⟨e, told, cause⟩ := exists_reply_of_toldFailure? failed
    rw [told] at ending'
    obtain ⟨stage, outcome⟩ := ending'
    have code : e.error.code = .backendTimeout := congrArg GatewayError.code cause
    exact said'.eq second stage (outcome.trans (congrArg _ code))
  subst same same'
  refine ⟨by decide +kernel, sinks, ?_, ?_, by decide +kernel, sinks', ?_, ?_⟩
  · rw [events]
    rfl
  · rw [requests]
    decide +kernel
  · rw [events']
    rfl
  · rw [requests']
    decide +kernel

end Passage

end TenantGateway
