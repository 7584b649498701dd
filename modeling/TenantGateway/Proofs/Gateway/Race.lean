/-
The race that a dispatched request is decided by.

Three events can end the call of a backend (`RaceEvent`): the caller leaves, the answer comes, the time is up. `Call.instantOf` says when each
of them comes, if it ever does, and `Call.Won` which of them is the earliest.
- `Call.ending_of_won`: the earliest event is what a call comes to, and when it ends;
- `Call.exists_won`: there is an earliest one, unless two of them come at the same instant;
- `earliest_decides`: so it is with every request that was admitted, and none of it touches the admission.
-/
import TenantGateway.Proofs.Gateway.Footprint
import TenantGateway.Proofs.Gateway.ForwardedHeaders

namespace TenantGateway

/-- what can end the call of a backend -/
inductive RaceEvent where
  /-- the caller leaves -/
  | departure
  | answer
  /-- the time is up -/
  | deadline
  deriving DecidableEq, Repr

namespace Call

variable {β : Type}

/-- an instant that may never come, which is then later than all others -/
def due : Option ℕ → WithTop ℕ
  | some n => n
  | none => ⊤

/-- when an event comes in a call with a time limit, counted from the start of the call -/
def instantOf (c : Call β) (limit : ℕ) : RaceEvent → WithTop ℕ
  | .departure => due c.cancelAfter
  | .answer => due c.delay
  | .deadline => limit

/-- the event comes before each of the others -/
def Won (c : Call β) (limit : ℕ) (e : RaceEvent) : Prop :=
  ∀ other, other ≠ e → c.instantOf limit e < c.instantOf limit other

/-- no two events come at the same instant -/
def Apart (c : Call β) (limit : ℕ) : Prop :=
  ∀ e other, other ≠ e → c.instantOf limit e = c.instantOf limit other → c.instantOf limit e = ⊤

/-- what a call comes to by an event -/
def endingBy (c : Call β) : RaceEvent → Ending β
  | .departure => .cancelled
  | .answer => .answered c.answer
  | .deadline => .timedOut

theorem noLater_iff (a b : Option ℕ) : noLater a b = true ↔ due a ≤ due b := by
  cases a <;> cases b <;> simp [noLater, due]

theorem due_earlier (a b : Option ℕ) : due (earlier a b) = min (due a) (due b) := by
  unfold earlier
  split_ifs with first
  · exact (min_eq_left ((noLater_iff a b).1 first)).symm
  · exact (min_eq_right (le_of_not_ge fun before => first ((noLater_iff a b).2 before))).symm

section Order

variable {a b : Option ℕ}

theorem noLater_of_before (before : due a < due b) : noLater a b = true :=
  (noLater_iff a b).2 before.le

theorem noLater_of_after (after : due b < due a) : noLater a b = false := by
  rw [Bool.eq_false_iff, ne_eq, noLater_iff]
  exact not_le_of_gt after

theorem earlier_of_before (before : due a < due b) : earlier a b = a :=
  if_pos (noLater_of_before before)

theorem earlier_of_after (after : due b < due a) : earlier a b = b :=
  if_neg (by simp [noLater_of_after after])

/-- an instant that is before another comes -/
theorem due_getD (before : due a < due b) : ((a.getD 0 : ℕ) : WithTop ℕ) = due a := by
  cases a with
  | none => exact absurd before not_top_lt
  | some n => rfl

end Order

variable {c : Call β} {limit : ℕ} {e : RaceEvent}

theorem exists_won (apart : c.Apart limit) : ∃ e, c.Won limit e := by
  let events : Finset RaceEvent := {.departure, .answer, .deadline}
  have all (e : RaceEvent) : e ∈ events := by cases e <;> decide
  obtain ⟨e, -, least⟩ := events.exists_min_image (c.instantOf limit) ⟨.deadline, all .deadline⟩
  replace least (other : RaceEvent) : c.instantOf limit e ≤ c.instantOf limit other := least other (all other)
  refine ⟨e, fun other different => lt_of_le_of_ne (least other) fun same => ?_⟩
  -- the limit is an instant that comes, so the least of the three comes as well
  have never := apart e other different same
  have limited : c.instantOf limit e ≤ limit := least .deadline
  rw [never, top_le_iff] at limited
  exact WithTop.coe_ne_top limited

/-- **The earliest event is what a call comes to**, and when. -/
theorem ending_of_won (won : c.Won limit e) :
    (c.ending (some limit)).1 = c.endingBy e ∧ ((c.ending (some limit)).2 : WithTop ℕ) = c.instantOf limit e := by
  unfold ending
  cases e with
  | departure =>
    have answer : due c.cancelAfter < due c.delay := won .answer nofun
    have deadline : due c.cancelAfter < due (some limit) := won .deadline nofun
    have both : due c.cancelAfter < due (earlier c.delay (some limit)) := by
      rw [due_earlier]
      exact lt_min answer deadline
    have late : c.delay ≠ some 0 := fun now => by simp [now, due] at answer
    rw [if_neg late, earlier_of_before both, noLater_of_before both]
    exact ⟨rfl, due_getD deadline⟩
  | answer =>
    have departure : due c.delay < due c.cancelAfter := won .departure nofun
    have deadline : due c.delay < due (some limit) := won .deadline nofun
    by_cases now : c.delay = some 0
    · rw [if_pos now]
      exact ⟨rfl, by rw [instantOf, now]; rfl⟩
    · rw [if_neg now, earlier_of_before deadline, earlier_of_after departure, noLater_of_after departure,
        noLater_of_before deadline]
      exact ⟨rfl, due_getD deadline⟩
  | deadline =>
    have departure : due (some limit) < due c.cancelAfter := won .departure nofun
    have answer : due (some limit) < due c.delay := won .answer nofun
    have late : c.delay ≠ some 0 := fun now => by simp [now, due] at answer
    rw [if_neg late, earlier_of_after answer, earlier_of_after departure, noLater_of_after departure,
      noLater_of_after answer]
    exact ⟨rfl, rfl⟩

end Call

namespace RaceEvent

/-- what a request comes to by the event that has ended the call of its backend -/
def verdict (c : Call (Except GatewayError Response)) (timeoutMs : ℕ) : RaceEvent → Except GatewayError Response
  | departure => .error .clientClosed
  | answer => c.answer
  | deadline => .error (.backendTimeout timeoutMs)

theorem response_endingBy (c : Call (Except GatewayError Response)) (timeoutMs : ℕ) (e : RaceEvent) :
    (c.endingBy e).response timeoutMs = e.verdict c timeoutMs := by
  cases e <;> rfl

end RaceEvent

namespace Passage

variable {α W : Type} [Quantity α] {p : Passage α W} {n : ℕ}

/-- the caller has left when a backend is to be asked -/
def departed (p : Passage α W) (t : Tenant) : Prop :=
  p.leavesBeforeDispatch t = true ∨ p.gateway.settings.backends.contains p.category = true ∧ p.caller.leavesAtDispatch = true

/-- how a request ends that was admitted: it is not forwarded if its caller has left, and is what the call of its backend comes to
if it has not and there is one -/
theorem Course.of_admitted {r : Except GatewayError Response} {f : Flight α W} (course : p.Course r f)
    (admitted : p.decision? = some (.admitted n)) :
    ∃ t token, p.Paid t token n ∧
      (p.departed t → r = .error .clientClosed ∧ f.forwarded = [] ∧ f.world = p.tokenWorld) ∧
      (p.gateway.settings.backends.contains p.category = true → ¬ p.departed t →
        r = p.outcome (p.outgoing t token) ∧ f.forwarded = [(p.category, p.outgoing t token)] ∧
          f.now = p.tokenInstant + (p.dispatchEnding (p.outgoing t token)).2) := by
  have decided := course.admission
  rw [admitted] at decided
  have same {t : Tenant} {token : AccessToken} {remaining : ℕ} (paid : p.Paid t token remaining) : p.Paid t token n := by
    have answer := paid.decision?_eq.symm.trans admitted
    exact ⟨paid.toAuthorized, paid.stayed, Option.some.inj answer⟩
  cases course with
  | unknown | disabled | unmatched | barred | uncredited | unsendable | left | revoked => cases decided
  | @throttled t token remaining retryAfter authorized stayed throttled =>
    have answer : some (p.charge t).2 = some (.admitted n) := decided
    rw [throttled] at answer
    cases answer
  | leftPaid paid left =>
    exact ⟨_, _, same paid, fun _ => ⟨rfl, rfl, rfl⟩, fun _ here => absurd (.inl left) here⟩
  | unplaced paid remained unserved =>
    refine ⟨_, _, same paid, fun gone => ?_, fun served => nomatch unserved.symm.trans served⟩
    rcases gone with left | ⟨served, -⟩
    · cases remained.symm.trans left
    · cases unserved.symm.trans served
  | leftPlaced placed left =>
    exact ⟨_, _, same placed.toPaid, fun _ => ⟨rfl, rfl, rfl⟩, fun served here => absurd (.inr ⟨served, left⟩) here⟩
  | failed placed stayed failed =>
    refine ⟨_, _, same placed.toPaid, fun gone => ?_, fun _ _ => ⟨failed.symm, rfl, rfl⟩⟩
    simp [departed, placed.remained, stayed] at gone
  | answered placed stayed answered =>
    refine ⟨_, _, same placed.toPaid, fun gone => ?_, fun _ _ => ⟨answered.symm, rfl, rfl⟩⟩
    simp [departed, placed.remained, stayed] at gone

/-- **The earliest event decides.** Take any request that is admitted: any gateway, backend and caller, and any configurations loaded on the
way. Whatever comes of it, the caller is told the tokens that its admission has left, and the limiter is what the admission has made of it,
but for configurations that are loaded while the backend is asked. If the caller has left when the dispatch is reached, it is told so, and no
backend is called. Otherwise, where there is a backend, it is called once, and of three events the earliest decides, and when it comes: the
caller leaves, and is told so; the backend answers, with a response or a failure, and the caller is told that; or the time is up, and the
caller is told after how many milliseconds. One of them is the earliest, if no two come at the same instant. -/
theorem earliest_decides (p : Passage α W) (admitted : p.decision? = some (.admitted n)) :
    ∃ t token, p.tenant? = some t ∧ p.token? = some token ∧ (p.charge t).2 = .admitted n ∧
      (∀ reply, p.handled.1 = .ok reply → reply.remaining = n) ∧
      (∀ e, p.handled.1 = .error e → e.remaining = some n) ∧
      p.handled.2.gateway.limiter = ((p.charged t).reloadAll p.lateLoads).limiter ∧
      (p.departed t →
        p.handled.1 = p.told (.error .clientClosed) ∧ p.handled.2.forwarded = [] ∧ p.handled.2.world = p.tokenWorld) ∧
      (p.gateway.settings.backends.contains p.category = true → ¬ p.departed t →
        let call := p.backendCall (p.outgoing t token)
        let limit := p.gateway.settings.timeout
        p.handled.2.forwarded = [(p.category, p.outgoing t token)] ∧
        (call.Apart limit → ∃ e, call.Won limit e) ∧
        ∀ e, call.Won limit e →
          p.handled.1 = p.told (e.verdict call p.gateway.settings.config.backends.timeoutMs) ∧
            (p.handled.2.now : WithTop ℕ) = p.tokenInstant + call.instantOf limit e) := by
  obtain ⟨r, f, course, handled⟩ := p.handled_course
  obtain ⟨t, token, paid, gone, raced⟩ := course.of_admitted admitted
  have told : p.handled.1 = p.told r := by rw [handled, course.told]
  have forwarded : p.handled.2.forwarded = f.forwarded := by rw [handled, Flight.closed_forwarded]
  have world : p.handled.2.world = f.world := by rw [handled, Flight.closed_world]
  have now : p.handled.2.now = f.now := by
    rw [handled]
    cases r <;> rfl
  refine ⟨t, token, paid.found, paid.token?_eq, paid.admitted, fun reply answered => ?_, fun e failed => ?_, ?_, ?_, ?_⟩
  · rw [told] at answered
    cases r with
    | error e => cases answered
    | ok answer =>
      cases answered
      simp [admitted, Admission.remaining]
  · rw [told] at failed
    cases r with
    | ok answer => cases failed
    | error cause =>
      cases failed
      simp [admitted, Admission.remaining]
  · rcases course.limiter with ⟨undecided, -⟩ | ⟨t', letIn, -, left⟩
    · simp [admitted] at undecided
    · obtain rfl := letIn.eq paid.found
      rw [lateLoads, forwarded, handled, Flight.closed_limiter, left]
  · intro departed
    obtain ⟨rfl, nothing, same⟩ := gone departed
    exact ⟨told, forwarded.trans nothing, world.trans same⟩
  · intro served here call limit
    obtain ⟨outcome, sent, instant⟩ := raced served here
    refine ⟨forwarded.trans sent, call.exists_won, fun e won => ?_⟩
    obtain ⟨ending, span⟩ := call.ending_of_won won
    constructor
    · rw [told, outcome, Passage.outcome, dispatchEnding, ending, RaceEvent.response_endingBy]
    · rw [now, instant, ← span]
      rfl

/-- a request whose backend fails after a while, and whose caller may leave; there are thirty seconds for it -/
def contested (delay cancelAfter : Option ℕ) : Passage ℚ Unit :=
  { outside :=
      { fetch := Gateway.sampleOutside.fetch
        forward := fun w _ _ => ({ answer := .error (.internal "backend"), delay, cancelAfter }, w) }
    gateway := Gateway.sample
    world := ()
    now := 0
    requestId := "id"
    caller := {}
    request := ⟨"acme", "POST", "/openai/chat", .empty, []⟩ }

theorem contested_served (delay cancelAfter : Option ℕ) :
    (contested delay cancelAfter).gateway.settings.backends.contains (contested delay cancelAfter).category = true := by
  have sample : Gateway.sample.settings.backends.contains (Gateway.sample.settings.routes.classify "/openai/chat") = true := by
    decide +kernel
  simp only [category, contested, sample]

/-- **By a nanosecond.** The same request, three times: its backend fails just in time, its time is up just before its caller leaves, its
caller leaves just before its backend fails. -/
theorem earliest_decides_by_a_nanosecond :
    (contested (some 29999999999) (some 30000000001)).handled.1 =
        (contested (some 29999999999) (some 30000000001)).told (.error (.internal "backend")) ∧
      (contested none (some 30000000001)).handled.1 =
        (contested none (some 30000000001)).told (.error (.backendTimeout 30000)) ∧
      (contested (some 7) (some 6)).handled.1 = (contested (some 7) (some 6)).told (.error .clientClosed) := by
  have race (delay cancelAfter : Option ℕ) (e : RaceEvent)
      (admitted : (contested delay cancelAfter).decision? = some (.admitted 999))
      (won : ∀ sent, ((contested delay cancelAfter).backendCall sent).Won 30000000000 e) :
      ∃ sent, (contested delay cancelAfter).handled.1 =
        (contested delay cancelAfter).told (e.verdict ((contested delay cancelAfter).backendCall sent) 30000) := by
    obtain ⟨t, token, -, -, -, -, -, -, -, raced⟩ := earliest_decides (contested delay cancelAfter) admitted
    have here : ¬ (contested delay cancelAfter).departed t := by
      rintro (left | ⟨-, left⟩) <;> cases left
    obtain ⟨-, -, decides⟩ := raced (contested_served delay cancelAfter) here
    have limit : Gateway.sample.settings.timeout = 30000000000 := by decide +kernel
    exact ⟨_, (decides e (limit ▸ won _)).1⟩
  have before {m n : ℕ} (less : m < n) : (m : WithTop ℕ) < n := WithTop.coe_lt_coe.2 less
  refine ⟨?_, ?_, ?_⟩
  · obtain ⟨sent, told⟩ := race (some 29999999999) (some 30000000001) .answer (by decide +kernel) fun sent other different => by
      cases other with
      | answer => exact absurd rfl different
      | departure | deadline => exact before (by decide)
    exact told
  · obtain ⟨sent, told⟩ := race none (some 30000000001) .deadline (by decide +kernel) fun sent other different => by
      cases other with
      | answer => exact WithTop.coe_lt_top _
      | departure => exact before (by decide)
      | deadline => exact absurd rfl different
    exact told
  · obtain ⟨sent, told⟩ := race (some 7) (some 6) .departure (by decide +kernel) fun sent other different => by
      cases other with
      | answer | deadline => exact before (by decide)
      | departure => exact absurd rfl different
    exact told

end Passage

end TenantGateway
