/-
The credential cache over whole runs.

A `Visit` is one call of the cache, together with what the source comes to if it is asked. A `Wallet` is a cache and the calls
that its source has got. `step_way` says which ways a visit can go; what follows is told from that.
- `Faithful`: the slot of an audience holds the token that was fetched last for it, and the counters count the calls of the
  source; every run keeps that (`run_faithful`).
- `AlikeFor`: two wallets are the same to one audience; visits for others change nothing about it (`log_own`).
- `tokens_over_runs`: when the source is asked, which token is given, and which is kept.
- `acquisition_eq_visit`: a request on its way through the gateway gets its token by a visit.
-/
import Mathlib.Tactic
import TenantGateway.Proofs.Gateway.Course

namespace TenantGateway

/-! ## One call of the cache -/

namespace CredentialCache

variable {σ : Type} (c : CredentialCache) (source : Source σ) (s : σ) (audience : String) (now wait : ℕ)

theorem valid?_eq_some_iff {margin : ℕ} {token : AccessToken} :
    c.valid? audience margin now = some token ↔
      c.slots.get? audience = some token ∧ now + margin < token.expiresAt := by
  simp [valid?, Option.filter_eq_some_iff, AccessToken.isFresh]

/-- no token gets fresh by waiting -/
theorem fresh?_later (stale : c.fresh? audience now = none) : c.fresh? audience (now + wait) = none := by
  rw [Option.eq_none_iff_forall_ne_some] at stale ⊢
  intro token later
  obtain ⟨held, fresh⟩ := (c.valid?_eq_some_iff audience (now + wait)).1 later
  apply stale token
  apply (c.valid?_eq_some_iff audience now).2
  exact ⟨held, by omega⟩

/-- a fresh token is given as it is -/
theorem getFrom_fresh {token : AccessToken} (fresh : c.fresh? audience now = some token) :
    c.getFrom source s audience now wait = ((c, s), .ok token) := by
  rw [getFrom, fresh]

/-- without one the source is asked, once -/
theorem getFrom_stale (stale : c.fresh? audience now = none) :
    c.getFrom source s audience now wait =
      let asked := source s audience (now + wait)
      let taken := c.take audience (now + wait + asked.1.2) asked.1.1
      ((taken.1, asked.2), taken.2) := by
  rw [getFrom, stale, c.fresh?_later audience now wait stale]

theorem take_error (e : GatewayError) :
    c.take audience now (.error e) =
      ({ c with failures := c.failures + 1 },
        match c.valid? audience 0 now with
        | some token => .ok token
        | none => .error (.credentialUnavailable (detail e))) := by
  have valid : { c with failures := c.failures + 1 }.valid? audience 0 now = c.valid? audience 0 now := rfl
  simp only [take, valid, unavailable_eq]
  cases c.valid? audience 0 now <;> rfl

/-- a call over a source that answers `delay` later -/
theorem get_eq (delay : ℕ) (answer : FetchAnswer) :
    c.get audience now delay answer =
      match c.fresh? audience now with
      | some token => (c, .ok token)
      | none => c.settle audience (now + delay) answer := by
  unfold get
  cases cached : c.fresh? audience now with
  | some token => simp only [c.getFrom_fresh _ _ audience now 0 cached]
  | none =>
    simp only [c.getFrom_stale _ _ audience now 0 cached]
    rfl

end CredentialCache

/-! ## Visits -/

/-- a call of a source, and what it came to -/
structure Fetch where
  audience : String
  answer : Except GatewayError AccessToken

namespace Fetch

def succeeded (f : Fetch) : Bool := f.answer.isOk

/-- the token that the call brought an audience -/
def token? (f : Fetch) (audience : String) : Option AccessToken :=
  if f.audience = audience then f.answer.toOption else none

variable (audience : String) (token : AccessToken) (e : GatewayError)

@[simp] theorem succeeded_ok : (⟨audience, .ok token⟩ : Fetch).succeeded = true := rfl

@[simp] theorem succeeded_error : (⟨audience, .error e⟩ : Fetch).succeeded = false := rfl

theorem token?_ok (other : String) :
    (⟨audience, .ok token⟩ : Fetch).token? other = if audience = other then some token else none := rfl

theorem token?_error (other : String) : (⟨audience, .error e⟩ : Fetch).token? other = none :=
  ite_self none

end Fetch

/-- the token of the last call for an audience that succeeded -/
def lastToken (calls : List Fetch) (audience : String) : Option AccessToken :=
  (calls.filterMap (·.token? audience)).getLast?

theorem lastToken_append (calls : List Fetch) (f : Fetch) (audience : String) :
    lastToken (calls ++ [f]) audience = (f.token? audience).or (lastToken calls audience) := by
  unfold lastToken
  rw [List.filterMap_append]
  cases fetched : f.token? audience with
  | none => simp [fetched]
  | some token => simp [fetched]

/-- one call of the cache -/
structure Visit where
  audience : String
  now : ℕ
  /-- how long it waits for its turn to ask the source -/
  wait : ℕ
  /-- how long the source takes -/
  delay : ℕ
  /-- what the source comes to, if it is asked -/
  answer : Except GatewayError AccessToken

namespace Visit

variable (v : Visit)

/-- the instant at which the source has answered -/
def finish : ℕ := v.now + v.wait + v.delay

/-- a source that answers as the visit says, and keeps a list of the calls it got -/
def source : CredentialCache.Source (List Fetch) :=
  fun calls audience _ => ((v.answer, v.delay), calls ++ [⟨audience, v.answer⟩])

end Visit

/-- a cache, and the calls that its source has got -/
structure Wallet where
  cache : CredentialCache
  calls : List Fetch

namespace Wallet

def start (skew : ℕ) : Wallet := ⟨.empty skew, []⟩

def slot? (w : Wallet) (audience : String) : Option AccessToken :=
  w.cache.slots.get? audience

/-- the audience's slot holds a token that is valid at an instant -/
def Holds (w : Wallet) (audience : String) (instant : ℕ) (token : AccessToken) : Prop :=
  w.slot? audience = some token ∧ instant < token.expiresAt

/-- a visit, and what it comes to -/
def step (w : Wallet) (v : Visit) : Wallet × Except GatewayError AccessToken :=
  let visited := w.cache.getFrom v.source w.calls v.audience v.now v.wait
  (⟨visited.1.1, visited.1.2⟩, visited.2)

/-- the wallet after a list of visits -/
def run (w : Wallet) (vs : List Visit) : Wallet :=
  vs.foldl (fun w v => (w.step v).1) w

/-- what each of them came to -/
def log (w : Wallet) : List Visit → List (Visit × Except GatewayError AccessToken)
  | [] => []
  | v :: vs => (v, (w.step v).2) :: (w.step v).1.log vs

theorem run_cons (w : Wallet) (v : Visit) (vs : List Visit) : w.run (v :: vs) = (w.step v).1.run vs := rfl

theorem log_cons (w : Wallet) (v : Visit) (vs : List Visit) :
    w.log (v :: vs) = (v, (w.step v).2) :: (w.step v).1.log vs := rfl

variable {w w' : Wallet} {v : Visit}

/-! ## The ways of a visit -/

/-- the wallet when the source has given a token -/
def supplied (w : Wallet) (audience : String) (token : AccessToken) : Wallet :=
  ⟨{ w.cache with slots := w.cache.slots.insert audience token, refreshes := w.cache.refreshes + 1 },
    w.calls ++ [⟨audience, .ok token⟩]⟩

/-- the wallet when the source has failed -/
def refused (w : Wallet) (audience : String) (e : GatewayError) : Wallet :=
  ⟨{ w.cache with failures := w.cache.failures + 1 }, w.calls ++ [⟨audience, .error e⟩]⟩

/-- the audience of a visit has no fresh token -/
def IsStale (w : Wallet) (v : Visit) : Prop :=
  ¬ ∃ token, w.Holds v.audience (v.now + w.cache.skew) token

/-- what a visit does, by what the cache finds -/
theorem step_eq (w : Wallet) (v : Visit) :
    w.step v =
      match w.cache.fresh? v.audience v.now with
      | some token => (w, .ok token)
      | none =>
        match v.answer with
        | .ok token => (w.supplied v.audience token, .ok token)
        | .error e =>
          (w.refused v.audience e,
            match w.cache.valid? v.audience 0 v.finish with
            | some token => .ok token
            | none => .error (.credentialUnavailable (CredentialCache.detail e))) := by
  unfold step
  cases cached : w.cache.fresh? v.audience v.now with
  | some token => rw [w.cache.getFrom_fresh v.source w.calls v.audience v.now v.wait cached]
  | none =>
    rw [w.cache.getFrom_stale v.source w.calls v.audience v.now v.wait cached]
    have asked : v.source w.calls v.audience (v.now + v.wait) =
        ((v.answer, v.delay), w.calls ++ [⟨v.audience, v.answer⟩]) := rfl
    have finish : v.now + v.wait + v.delay = v.finish := rfl
    simp only [asked, finish]
    cases v.answer with
    | ok token => rfl
    | error e =>
      rw [CredentialCache.take_error]
      rfl

theorem valid?_of_holds {audience : String} {margin now : ℕ} {token : AccessToken}
    (held : w.Holds audience (now + margin) token) : w.cache.valid? audience margin now = some token :=
  (w.cache.valid?_eq_some_iff audience now).2 held

theorem valid?_of_none_held {audience : String} {margin now : ℕ}
    (unheld : ¬ ∃ token, w.Holds audience (now + margin) token) : w.cache.valid? audience margin now = none := by
  rw [Option.eq_none_iff_forall_ne_some]
  intro token valid
  exact unheld ⟨token, (w.cache.valid?_eq_some_iff audience now).1 valid⟩

/-- a fresh token is given, and nothing changes -/
theorem step_of_fresh {token : AccessToken} (fresh : w.Holds v.audience (v.now + w.cache.skew) token) :
    w.step v = (w, .ok token) := by
  have cached : w.cache.fresh? v.audience v.now = some token := valid?_of_holds fresh
  rw [step_eq, cached]

/-- a token of the source is given on and kept -/
theorem step_of_success {token : AccessToken} (stale : w.IsStale v) (answer : v.answer = .ok token) :
    w.step v = (w.supplied v.audience token, .ok token) := by
  have uncached : w.cache.fresh? v.audience v.now = none := valid?_of_none_held stale
  rw [step_eq, uncached, answer]

/-- a failure of the source leaves the slots as they are -/
theorem step_of_failure {e : GatewayError} (stale : w.IsStale v) (answer : v.answer = .error e) :
    (w.step v).1 = w.refused v.audience e := by
  have uncached : w.cache.fresh? v.audience v.now = none := valid?_of_none_held stale
  rw [step_eq, uncached, answer]

/-- where the source fails, a token that has not expired is given -/
theorem step_of_valid {e : GatewayError} {token : AccessToken} (stale : w.IsStale v) (answer : v.answer = .error e)
    (valid : w.Holds v.audience v.finish token) : w.step v = (w.refused v.audience e, .ok token) := by
  have uncached : w.cache.fresh? v.audience v.now = none := valid?_of_none_held stale
  have left : w.cache.valid? v.audience 0 v.finish = some token := valid?_of_holds valid
  rw [step_eq, uncached, answer, left]

/-- and without one the call fails, whatever the source's failure was -/
theorem step_of_expired {e : GatewayError} (stale : w.IsStale v) (answer : v.answer = .error e)
    (expired : ¬ ∃ token, w.Holds v.audience v.finish token) :
    w.step v = (w.refused v.audience e, .error (.credentialUnavailable (CredentialCache.detail e))) := by
  have uncached : w.cache.fresh? v.audience v.now = none := valid?_of_none_held stale
  have left : w.cache.valid? v.audience 0 v.finish = none := valid?_of_none_held expired
  rw [step_eq, uncached, answer, left]

/-- the ways of a visit, by what it finds in the slot and what the source comes to -/
inductive Way (w : Wallet) (v : Visit) : Wallet × Except GatewayError AccessToken → Prop
  | cached {token : AccessToken} (fresh : w.Holds v.audience (v.now + w.cache.skew) token) : Way w v (w, .ok token)
  | fetched {token : AccessToken} (stale : w.IsStale v) (answer : v.answer = .ok token) :
      Way w v (w.supplied v.audience token, .ok token)
  | kept {e : GatewayError} {token : AccessToken} (stale : w.IsStale v) (answer : v.answer = .error e)
      (valid : w.Holds v.audience v.finish token) : Way w v (w.refused v.audience e, .ok token)
  | failed {e : GatewayError} (stale : w.IsStale v) (answer : v.answer = .error e)
      (expired : ¬ ∃ token, w.Holds v.audience v.finish token) :
      Way w v (w.refused v.audience e, .error (.credentialUnavailable (CredentialCache.detail e)))

/-- **Every visit goes one of these ways.** -/
theorem step_way (w : Wallet) (v : Visit) : Way w v (w.step v) := by
  by_cases stale : w.IsStale v
  · cases answer : v.answer with
    | ok token =>
      rw [step_of_success stale answer]
      exact .fetched stale answer
    | error e =>
      by_cases valid : ∃ token, w.Holds v.audience v.finish token
      · obtain ⟨token, held⟩ := valid
        rw [step_of_valid stale answer held]
        exact .kept stale answer held
      · rw [step_of_expired stale answer valid]
        exact .failed stale answer valid
  · obtain ⟨token, fresh⟩ := not_not.1 stale
    rw [step_of_fresh fresh]
    exact .cached fresh

/-- a call over a source whose tokens start their time when they are fetched is such a visit -/
theorem get_eq_step (w : Wallet) (audience : String) (now delay : ℕ) (answer : FetchAnswer) :
    let v : Visit := ⟨audience, now, 0, delay, answer.map (·.startingAt (now + delay))⟩
    w.cache.get audience now delay answer = ((w.step v).1.cache, (w.step v).2) := by
  intro v
  rw [w.cache.get_eq]
  cases cached : w.cache.fresh? audience now with
  | some token => rw [step, w.cache.getFrom_fresh _ _ v.audience v.now v.wait cached]
  | none =>
    rw [step, w.cache.getFrom_stale _ _ v.audience v.now v.wait cached]
    rfl

theorem slot?_supplied (audience : String) (token : AccessToken) (other : String) :
    (w.supplied audience token).slot? other = if other = audience then some token else w.slot? other :=
  Table.get?_insert ..

theorem step_skew (w : Wallet) (v : Visit) : (w.step v).1.cache.skew = w.cache.skew := by
  have way := w.step_way v
  generalize w.step v = stepped at way ⊢
  cases way <;> rfl

theorem run_skew (w : Wallet) (vs : List Visit) : (w.run vs).cache.skew = w.cache.skew := by
  induction vs generalizing w with
  | nil => rfl
  | cons v vs ih => rw [run_cons, ih, step_skew]

/-! ## Slots and counters -/

/-- the cache is what the calls of the source have made of it -/
structure Faithful (w : Wallet) : Prop where
  latest : ∀ audience, w.slot? audience = lastToken w.calls audience
  refreshes : w.cache.refreshes = w.calls.countP Fetch.succeeded
  failures : w.cache.failures = w.calls.countP fun f => !f.succeeded

theorem faithful_start (skew : ℕ) : (start skew).Faithful :=
  ⟨fun _ => rfl, rfl, rfl⟩

theorem Faithful.supplied (h : w.Faithful) (audience : String) (token : AccessToken) :
    (w.supplied audience token).Faithful where
  latest other := by
    have calls : (w.supplied audience token).calls = w.calls ++ [⟨audience, .ok token⟩] := rfl
    rw [slot?_supplied, calls, lastToken_append, Fetch.token?_ok, h.latest]
    by_cases same : other = audience
    · simp [same]
    · simp [same, Ne.symm same]
  refreshes := by simp [Wallet.supplied, h.refreshes]
  failures := by simp [Wallet.supplied, h.failures]

theorem Faithful.refused (h : w.Faithful) (audience : String) (e : GatewayError) :
    (w.refused audience e).Faithful where
  latest other := by
    have calls : (w.refused audience e).calls = w.calls ++ [⟨audience, .error e⟩] := rfl
    rw [calls, lastToken_append, Fetch.token?_error]
    exact h.latest other
  refreshes := by simp [Wallet.refused, h.refreshes]
  failures := by simp [Wallet.refused, h.failures]

theorem step_faithful (h : w.Faithful) (v : Visit) : (w.step v).1.Faithful := by
  have way := w.step_way v
  generalize w.step v = stepped at way ⊢
  cases way with
  | cached fresh => exact h
  | fetched stale answer => exact h.supplied v.audience _
  | kept stale answer valid => exact h.refused v.audience _
  | failed stale answer expired => exact h.refused v.audience _

theorem run_faithful (h : w.Faithful) (vs : List Visit) : (w.run vs).Faithful := by
  induction vs generalizing w with
  | nil => exact h
  | cons v vs ih => exact ih (step_faithful h v)

theorem Faithful.counted (h : w.Faithful) : w.cache.refreshes + w.cache.failures = w.calls.length := by
  have split := List.length_eq_countP_add_countP Fetch.succeeded (l := w.calls)
  simp only [Bool.not_eq_true, Bool.decide_eq_false] at split
  rw [h.refreshes, h.failures, split]

/-- a token that is given is the one that was fetched last, and it is new or has not expired -/
theorem step_given (h : w.Faithful) {token : AccessToken} (given : (w.step v).2 = .ok token) :
    lastToken (w.step v).1.calls v.audience = some token ∧
      ((w.step v).1.calls = w.calls ++ [⟨v.audience, .ok token⟩] ∨
        ((w.step v).1.calls = w.calls ∧ v.now < token.expiresAt) ∨ v.finish < token.expiresAt) := by
  -- the calls of the source are read off the slot
  have after := step_faithful h v
  rw [← after.latest]
  have way := w.step_way v
  generalize w.step v = stepped at way given ⊢
  cases way with
  | cached fresh =>
    obtain rfl := Except.ok.inj given
    refine ⟨fresh.1, .inr (.inl ⟨rfl, ?_⟩)⟩
    exact lt_of_le_of_lt (Nat.le_add_right v.now w.cache.skew) fresh.2
  | fetched stale answer =>
    obtain rfl := Except.ok.inj given
    refine ⟨?_, .inl rfl⟩
    rw [slot?_supplied, if_pos rfl]
  | kept stale answer valid =>
    obtain rfl := Except.ok.inj given
    exact ⟨valid.1, .inr (.inr valid.2)⟩
  | failed stale answer expired => cases given

/-! ## One audience and the others -/

/-- two wallets are the same to an audience -/
structure AlikeFor (audience : String) (w w' : Wallet) : Prop where
  skew : w.cache.skew = w'.cache.skew
  slot : w.slot? audience = w'.slot? audience

/-- a visit for one audience is nothing to the others -/
theorem step_other {audience : String} (alike : AlikeFor audience w w') (other : v.audience ≠ audience) :
    AlikeFor audience (w.step v).1 w' := by
  refine ⟨(w.step_skew v).trans alike.skew, ?_⟩
  rw [← alike.slot]
  have way := w.step_way v
  generalize w.step v = stepped at way ⊢
  cases way with
  | cached fresh => rfl
  | fetched stale answer => rw [slot?_supplied, if_neg other.symm]
  | kept stale answer valid => rfl
  | failed stale answer expired => rfl

theorem AlikeFor.valid?_eq {audience : String} (alike : AlikeFor audience w w') (margin now : ℕ) :
    w.cache.valid? audience margin now = w'.cache.valid? audience margin now := by
  have slots : w.cache.slots.get? audience = w'.cache.slots.get? audience := alike.slot
  rw [CredentialCache.valid?, CredentialCache.valid?, slots]

/-- to its own audience a visit comes to the same, whatever the caches hold for others -/
theorem step_own (alike : AlikeFor v.audience w w') :
    (w.step v).2 = (w'.step v).2 ∧ AlikeFor v.audience (w.step v).1 (w'.step v).1 := by
  have fresh : w.cache.fresh? v.audience v.now = w'.cache.fresh? v.audience v.now := by
    rw [CredentialCache.fresh?, CredentialCache.fresh?, alike.skew, alike.valid?_eq]
  rw [step_eq, step_eq, fresh, alike.valid?_eq]
  cases w'.cache.fresh? v.audience v.now with
  | some token => exact ⟨rfl, alike⟩
  | none =>
    cases v.answer with
    | ok token =>
      refine ⟨rfl, alike.skew, ?_⟩
      rw [slot?_supplied, slot?_supplied, if_pos rfl, if_pos rfl]
    | error e => exact ⟨rfl, alike.skew, alike.slot⟩

/-- what an audience gets in a run is what it gets without the visits for others -/
theorem log_own {audience : String} (alike : AlikeFor audience w w') (vs : List Visit) :
    (w.log vs).filter (·.1.audience = audience) = w'.log (vs.filter (·.audience = audience)) ∧
      AlikeFor audience (w.run vs) (w'.run (vs.filter (·.audience = audience))) := by
  -- a visit for another audience is made by the first wallet alone, so the two only stay alike
  induction vs generalizing w w' with
  | nil => exact ⟨rfl, alike⟩
  | cons v vs ih =>
    rw [log_cons, run_cons]
    by_cases own : v.audience = audience
    · subst own
      obtain ⟨result, alike'⟩ := step_own alike
      obtain ⟨rest, end'⟩ := ih alike'
      rw [List.filter_cons_of_pos (by simp), List.filter_cons_of_pos (by simp), log_cons, run_cons, result, rest]
      exact ⟨rfl, end'⟩
    · rw [List.filter_cons_of_neg (by simpa using own), List.filter_cons_of_neg (by simpa using own)]
      exact ih (step_other alike own)

/-! ## The law of the cache -/

/-- **Tokens over whole runs.** Take a cache with any margin, in any run of visits, and one more visit. If the slot of its
audience holds a token that is fresh by the margin, that one is given and nothing changes. Else the source is asked once: a
token that it gives is given on and kept; if it fails, the slots stay, and the slot's token is given if it is still valid when
the source has failed, and a failure of one kind if it is not, whichever way the source failed. So a token that is given is
always the one that was fetched last for its audience, and it is new or not expired. The two counters count the calls of the
source, and what an audience gets is the same without the visits for others. -/
theorem tokens_over_runs (skew : ℕ) (vs : List Visit) (v : Visit) :
    let w := (start skew).run vs
    let after := (w.step v).1
    let result := (w.step v).2
    (∀ token, w.Holds v.audience (v.now + skew) token → after = w ∧ result = .ok token) ∧
    ((¬ ∃ token, w.Holds v.audience (v.now + skew) token) →
      after.calls = w.calls ++ [⟨v.audience, v.answer⟩] ∧
      (∀ token, v.answer = .ok token → result = .ok token ∧ after.slot? v.audience = some token) ∧
      ∀ e, v.answer = .error e →
        after.cache.slots = w.cache.slots ∧
        (∀ token, w.Holds v.audience v.finish token → result = .ok token) ∧
        ((¬ ∃ token, w.Holds v.audience v.finish token) →
          result = .error (.credentialUnavailable (CredentialCache.detail e)))) ∧
    (∀ token, result = .ok token →
      lastToken after.calls v.audience = some token ∧
        (after.calls = w.calls ++ [⟨v.audience, .ok token⟩] ∨
          (after.calls = w.calls ∧ v.now < token.expiresAt) ∨ v.finish < token.expiresAt)) ∧
    w.cache.refreshes + w.cache.failures = w.calls.length ∧
    ∀ audience,
      ((start skew).log vs).filter (·.1.audience = audience) = (start skew).log (vs.filter (·.audience = audience)) ∧
        w.slot? audience = ((start skew).run (vs.filter (·.audience = audience))).slot? audience := by
  intro w after result
  have same : w.cache.skew = skew := run_skew (start skew) vs
  have faithful : w.Faithful := run_faithful (faithful_start skew) vs
  refine ⟨?_, ?_, ?_, faithful.counted, ?_⟩
  · intro token fresh
    rw [← same] at fresh
    have visited := step_of_fresh fresh
    exact ⟨congrArg Prod.fst visited, congrArg Prod.snd visited⟩
  · intro stale
    rw [← same] at stale
    cases answer : v.answer with
    | ok token =>
      have visited : w.step v = (w.supplied v.audience token, .ok token) := step_of_success stale answer
      have kept : (w.supplied v.audience token).slot? v.audience = some token := by
        rw [slot?_supplied, if_pos rfl]
      refine ⟨congrArg (·.1.calls) visited, ?_, nofun⟩
      rintro _ ⟨⟩
      exact ⟨congrArg Prod.snd visited, (congrArg (·.1.slot? v.audience) visited).trans kept⟩
    | error e =>
      have left : after = w.refused v.audience e := step_of_failure stale answer
      refine ⟨congrArg calls left, nofun, ?_⟩
      rintro _ ⟨⟩
      refine ⟨congrArg (·.cache.slots) left, ?_, ?_⟩
      · intro token valid
        exact congrArg Prod.snd (step_of_valid stale answer valid)
      · intro expired
        exact congrArg Prod.snd (step_of_expired stale answer expired)
  · intro token given
    exact step_given faithful given
  · intro audience
    have begun : AlikeFor audience (start skew) (start skew) := ⟨rfl, rfl⟩
    obtain ⟨answers, alike⟩ := log_own begun vs
    exact ⟨answers, alike.slot⟩

/-- a token that is used, then kept while the source fails, and given up when it has expired -/
example :
    let visit (now : ℕ) (answer : Except GatewayError AccessToken) : Visit := ⟨"a", now, 0, 50, answer⟩
    ((start 300).log [visit 0 (.ok ⟨"t", 1000⟩), visit 600 (.error .clientClosed), visit 700 (.error .clientClosed),
        visit 950 (.error .clientClosed)]).map Prod.snd =
      [.ok ⟨"t", 1000⟩, .ok ⟨"t", 1000⟩, .ok ⟨"t", 1000⟩,
        .error (.credentialUnavailable GatewayError.clientClosed.message)] := by
  rfl

end Wallet

/-! ## Requests as visits -/

namespace Passage

variable {α W : Type} (p : Passage α W)

/-- the visit by which a request gets its token, if its caller stays until the source has answered -/
def visit : Visit :=
  { audience := Category.serviceAudience
    now := p.now
    wait := 0
    delay := p.tokenCall.span
    answer := p.tokenCall.answer.map (·.startingAt (p.now + p.tokenCall.span)) }

/-- **A request gets its token by a visit.** -/
theorem acquisition_eq_visit (here : p.caller.gone = false) (answers : p.tokenCall.isAbandoned = false)
    (calls : List Fetch) :
    let visited := (Wallet.mk p.gateway.cache calls).step p.visit
    visited.1.cache = p.tokenCache ∧ visited.2 = p.acquisition.result := by
  have got : p.gateway.cache.get Category.serviceAudience p.now p.tokenCall.span p.tokenCall.answer = _ :=
    Wallet.get_eq_step ⟨p.gateway.cache, calls⟩ ..
  have found : p.gateway.cache.fresh? Category.serviceAudience p.now = p.cached? := rfl
  rw [CredentialCache.get_eq, found] at got
  cases cached : p.cached? with
  | some token =>
    have asks : p.asksSource = false := by simp [asksSource, cached]
    have cache : p.tokenCache = p.gateway.cache := by simp [tokenCache, asks]
    have acquired : p.acquisition = .acquired token := by simp [acquisition, here, cached]
    rw [cached] at got
    rw [cache, acquired]
    exact ⟨congrArg Prod.fst got.symm, congrArg Prod.snd got.symm⟩
  | none =>
    have asks : p.asksSource = true := by simp [asksSource, here, cached]
    have instant : p.tokenInstant = p.now + p.tokenCall.span := by simp [tokenInstant, asks]
    have cache : p.tokenCache =
        (p.gateway.cache.settle Category.serviceAudience p.tokenInstant p.tokenCall.answer).1 := by
      simp [tokenCache, asks, answers]
    rw [cached] at got
    rw [cache, ← p.settle_eq cached here answers, instant]
    exact ⟨congrArg Prod.fst got.symm, congrArg Prod.snd got.symm⟩

end Passage

end TenantGateway
