/-
Backends over HTTP as a request meets them.

A backend over HTTP fails in one way only (`HttpBackend.forward_error`). `Outside.ServesHttp` says of a world that its backends
are such; it is so of the world that a gateway is started with (`TokenSource.servesHttp`). With it the failure of a request that
was forwarded is one of three (`Passage.outcome_error`).
-/
import TenantGateway.Gateway.Start
import TenantGateway.Proofs.Gateway.Course

namespace TenantGateway

/-- a backend over HTTP that fails is unavailable -/
theorem HttpBackend.forward_error {W : Type} {b : HttpBackend} {n : Network W} {w : W} {r : ForwardRequest}
    {e : GatewayError} (failed : (b.forward n w r).1 = .error e) : ∃ detail, e = .backendUnavailable detail := by
  unfold forward at failed
  dsimp only at failed
  split at failed
  · exact ⟨_, (Except.error.inj failed).symm⟩
  · split at failed
    · exact ⟨_, (Except.error.inj failed).symm⟩
    · cases failed

/-- every backend answers as one over HTTP does, over whatever network it finds -/
def Outside.ServesHttp {W : Type} (o : Outside W) (backends : List Category) : Prop :=
  ∀ c ∈ backends, ∃ b : HttpBackend, ∀ (w : W) (r : ForwardRequest),
    ∃ (V : Type) (n : Network V) (v : V), (o.forward w c r).1.answer = (b.forward n v r).1

theorem Outside.ServesHttp.error {W : Type} {o : Outside W} {backends : List Category} (http : o.ServesHttp backends)
    {c : Category} (served : c ∈ backends) {w : W} {r : ForwardRequest} {e : GatewayError}
    (failed : (o.forward w c r).1.answer = .error e) : ∃ detail, e = .backendUnavailable detail := by
  obtain ⟨b, answers⟩ := http c served
  obtain ⟨V, n, v, answer⟩ := answers w r
  exact HttpBackend.forward_error (answer.symm.trans failed)

/-- the backends of the configured endpoints are such -/
theorem TokenSource.servesHttp {W : Type} (s : TokenSource) (backends : List (Category × HttpBackend)) (n : Network W)
    (epoch : ℕ) : (s.outside backends n epoch).ServesHttp (backends.map (·.1)) := by
  intro c served
  cases found : backends.lookup c with
  | none =>
    obtain ⟨pair, member, rfl⟩ := List.mem_map.1 served
    simpa using List.lookup_eq_none_iff.1 found pair member
  | some b =>
    refine ⟨b, fun w r => ⟨W, n, w, ?_⟩⟩
    simp only [outside, found]

namespace Ending

/-- what a call's ending leaves for the request to fail with -/
theorem response_error {timeoutMs : ℕ} {ending : Ending (Except GatewayError Response)} {e : GatewayError}
    (failed : ending.response timeoutMs = .error e) :
    ending = .answered (.error e) ∨ e = .clientClosed ∨ e = .backendTimeout timeoutMs := by
  cases ending with
  | answered answer => exact .inl (congrArg _ failed)
  | cancelled => exact .inr (.inl (Except.error.inj failed).symm)
  | timedOut => exact .inr (.inr (Except.error.inj failed).symm)

end Ending

theorem Call.ending_answered {α : Type} {c : Call α} {limit : Option ℕ} {a : α} (answered : (c.ending limit).1 = .answered a) :
    c.answer = a := by
  unfold ending at answered
  split_ifs at answered
  · exact Ending.answered.inj answered
  · exact Ending.answered.inj answered

namespace Passage

variable {α W : Type} {p : Passage α W}

/-- a request that was forwarded fails because its caller has left, the time is up, or the backend is unavailable -/
theorem outcome_error (http : p.outside.ServesHttp p.gateway.settings.backends)
    (served : p.gateway.settings.backends.contains p.category = true) {r : ForwardRequest} {e : GatewayError}
    (failed : p.outcome r = .error e) :
    (∃ detail, e = .backendUnavailable detail) ∨ e = .clientClosed ∨
      e = .backendTimeout p.gateway.settings.config.backends.timeoutMs := by
  rcases Ending.response_error failed with answered | closed
  · exact .inl (http.error (List.contains_iff_mem.1 served) (Call.ending_answered answered))
  · exact .inr closed

variable [Quantity α]

/-- a request that is answered has been forwarded, and the answer is what that came to -/
theorem Course.outcome_ok {answer : Response} {f : Flight α W} (course : p.Course (.ok answer) f) :
    ∃ sent, f.forwarded = [(p.category, sent)] ∧ p.outcome sent = .ok answer := by
  cases course with
  | @answered t token _ _ placed stayed answered => exact ⟨p.outgoing t token, rfl, answered⟩

end Passage

end TenantGateway
