/-
A limiter that is bound to a registry.

`Meter.BoundTo` says that a limiter is bound to a registry of accepted tenants; every use keeps that (`run_boundTo`).
`ask_eq` is the answer of such a limiter to a request, in which the caller's own word on its tenant does not occur.
- `obeys_snapshot`: who is revoked, on which bucket all others are decided, and that the caller's word changes nothing;
- `Alike` relates two uses that differ in the caller's word alone, and `run_alike` two runs of such uses.
-/
import TenantGateway.Proofs.Limiter.Meter
import TenantGateway.Proofs.Registry.Accepted

namespace TenantGateway

namespace Quantity

variable {α : Type} [Quantity α]

theorem min_self (a : α) : Quantity.min a a = a :=
  ite_self a

end Quantity

namespace Bucket

variable {α : Type} [Quantity α]

theorem capacityOf_eq {n : ℕ} (pos : 1 ≤ n) : (capacityOf n : α) = Quantity.ofNat n := by
  rw [capacityOf, max_eq_left pos]

theorem reconfigure_full (n : ℕ) (now : ℤ) : (full n now : Bucket α).reconfigure n = full n now := by
  simp only [reconfigure, full, Quantity.min_self]

/-- the bucket on which a request is decided under a budget: the one there is, with this budget, or a full one -/
def under (b : Option (Bucket α)) (budget : ℕ) (now : ℤ) : Bucket α :=
  match b with
  | some b => b.reconfigure budget
  | none => full budget now

theorem under_capacity (b : Option (Bucket α)) {budget : ℕ} (pos : 1 ≤ budget) (now : ℤ) :
    (under b budget now).capacity = Quantity.ofNat budget := by
  rw [← capacityOf_eq pos]
  cases b <;> rfl

end Bucket

theorem Limiter.purse_eq_under {α : Type} [Quantity α] (l : Limiter α) (id : String) (budget : ℕ) (now : ℤ) :
    l.purse id budget now = .under (l.buckets.get? id) budget now := by
  unfold purse Bucket.under
  cases l.buckets.get? id with
  | some b => rfl
  | none => exact Bucket.reconfigure_full budget now

/-- after a sync there are the buckets of enabled tenants that were there before, each with its tenant's budget -/
theorem Limiter.get?_sync_eq_some_iff {α : Type} [Quantity α] (l : Limiter α) {s : Snapshot} {cost : ℕ}
    (accepted : s.Accepted cost) {id : String} {b : Bucket α} :
    (l.sync s).buckets.get? id = some b ↔
      ∃ old, l.buckets.get? id = some old ∧
        ∃ t ∈ s.tenants, t.id = id ∧ t.enabled = true ∧
          b = ⟨Quantity.ofNat t.tokensPerMinute, Quantity.min old.tokens (Quantity.ofNat t.tokensPerMinute), old.last⟩ := by
  have under {t : Tenant} (member : t ∈ s.tenants) (old : Bucket α) :
      old.reconfigure t.tokensPerMinute =
        ⟨Quantity.ofNat t.tokensPerMinute, Quantity.min old.tokens (Quantity.ofNat t.tokensPerMinute), old.last⟩ := by
    rw [Bucket.reconfigure, Bucket.capacityOf_eq (accepted.funded t member)]
  rw [get?_sync, Option.bind_eq_some_iff]
  constructor
  · rintro ⟨old, held, kept⟩
    obtain ⟨n, budget, rfl⟩ := Option.map_eq_some_iff.1 kept
    obtain ⟨t, member, named, enabled, rfl⟩ := accepted.budget?_eq_some_iff.1 budget
    exact ⟨old, held, t, member, named, enabled, under member old⟩
  · rintro ⟨old, held, t, member, named, enabled, rfl⟩
    refine ⟨old, held, Option.map_eq_some_iff.2 ⟨t.tokensPerMinute, ?_, under member old⟩⟩
    exact accepted.budget?_eq_some_iff.2 ⟨t, member, named, enabled, rfl⟩

namespace Meter

variable {α : Type}

/-- a limiter is bound to a registry of accepted tenants, under the cost of a request -/
structure BoundTo (m : Meter α) (r : Registry) (cost : ℕ) : Prop where
  registry : m.registry = some r
  accepted : r.Accepted
  requestCost : r.requestCost = cost

theorem boundTo_start {tenants : List TenantConfig} {cost : ℕ} {r : Registry} (made : Registry.make tenants cost = .ok r) :
    (start (some r) : Meter α).BoundTo r cost :=
  ⟨rfl, Registry.accepted_make made, Registry.requestCost_make made⟩

variable [Quantity α] {m : Meter α} {r : Registry} {cost : ℕ}

/-! ## The registry in use -/

theorem step_reload (bound : m.BoundTo r cost) (tenants : List TenantConfig) :
    m.step (.reload tenants) =
      match r.reload tenants with
      | .ok r => ({ m with registry := some r }, .done)
      | .error e => (m, .refused e) := by
  cases reloaded : r.reload tenants with
  | error e => simp only [step, bound.registry, reloaded]
  | ok r' => simp only [step, bound.registry, reloaded]

theorem step_boundTo (bound : m.BoundTo r cost) (u : Use) : ∃ r', (m.step u).1.BoundTo r' cost := by
  cases u with
  | reload tenants =>
    rw [step_reload bound]
    cases reloaded : r.reload tenants with
    | error e => exact ⟨r, bound⟩
    | ok r' =>
      exact ⟨r', rfl, Registry.accepted_reload reloaded, (Registry.requestCost_reload reloaded).trans bound.requestCost⟩
  | _ => exact ⟨r, bound.registry, bound.accepted, bound.requestCost⟩

/-- a limiter stays bound to a registry of accepted tenants -/
theorem run_boundTo (bound : m.BoundTo r cost) (us : List Use) : ∃ r', (m.run us).BoundTo r' cost := by
  induction us generalizing m r with
  | nil => exact ⟨r, bound⟩
  | cons u us ih =>
    obtain ⟨r', bound'⟩ := step_boundTo bound u
    exact ih bound'

/-! ## One request -/

omit [Quantity α] in
theorem BoundTo.liveBudget (bound : m.BoundTo r cost) (t : Tenant) :
    Limiter.liveBudget m.authority t = r.current.budget? t.id := by
  rw [authority, bound.registry]
  rfl

/-- the answer to a request: of its tenant only the id counts -/
theorem ask_eq (bound : m.BoundTo r cost) (t : Tenant) (n : ℕ) (now : ℤ) :
    m.step (.ask t n now) =
      match r.current.budget? t.id with
      | none => (m, .admission .revoked)
      | some budget =>
        let decided := (Bucket.under (m.bucket? t.id) budget now).tryTake n now
        ({ m with limiter := ⟨m.limiter.buckets.insert t.id decided.1⟩ }, .admission decided.2) := by
  have live := bound.liveBudget t
  cases budget : r.current.budget? t.id with
  | none => rw [ask_of_no_budget (live.trans budget)]
  | some budget' =>
    rw [ask_of_budget (live.trans budget), Limiter.purse_eq_under]
    rfl

theorem ask_revoked_iff (bound : m.BoundTo r cost) (t : Tenant) (n : ℕ) (now : ℤ) :
    (m.step (.ask t n now)).2 = .admission .revoked ↔ r.current.budget? t.id = none := by
  rw [ask_eq bound]
  cases r.current.budget? t.id with
  | none => exact iff_of_true rfl rfl
  | some budget =>
    simp only [Answer.admission.injEq, reduceCtorEq, iff_false]
    exact Bucket.tryTake_ne_revoked _ _ _

/-! ## Two callers of the same tenant -/

/-- two uses that are the same, but for what the caller of a request believes of its tenant -/
inductive Alike : Use → Use → Prop where
  | same (u : Use) : Alike u u
  | asked {t t' : Tenant} (id : t.id = t'.id) (n : ℕ) (now : ℤ) : Alike (.ask t n now) (.ask t' n now)

theorem step_alike (bound : m.BoundTo r cost) {u v : Use} (alike : Alike u v) : m.step u = m.step v := by
  cases alike with
  | same => rfl
  | asked id n now => rw [ask_eq bound, ask_eq bound, id]

theorem run_alike (bound : m.BoundTo r cost) {us vs : List Use} (alike : List.Forall₂ Alike us vs) :
    m.run us = m.run vs ∧ (m.log us).map Prod.snd = (m.log vs).map Prod.snd := by
  induction alike generalizing m r with
  | nil => exact ⟨rfl, rfl⟩
  | @cons u v us vs head tail ih =>
    have same := step_alike bound head
    obtain ⟨r', bound'⟩ := step_boundTo bound u
    obtain ⟨states, answers⟩ := ih bound'
    constructor
    · rw [run_cons, run_cons, ← same]
      exact states
    · rw [log_cons, log_cons, List.map_cons, List.map_cons, ← same, answers]

/-! ## Syncs -/

/-- after a sync every bucket is that of an enabled tenant and has its budget -/
theorem bucket_sync {s : Snapshot} (accepted : s.Accepted cost) {id : String} {b : Bucket α}
    (hb : (m.step (.sync s)).1.bucket? id = some b) :
    ∃ t ∈ s.tenants, t.id = id ∧ t.enabled = true ∧ b.capacity = Quantity.ofNat t.tokensPerMinute := by
  obtain ⟨old, -, t, member, named, enabled, rfl⟩ := (Limiter.get?_sync_eq_some_iff m.limiter accepted).1 hb
  exact ⟨t, member, named, enabled, rfl⟩

/-! ## The law of the snapshot -/

/-- **The snapshot decides.** Take a limiter that is bound to a registry from its start, in any run of requests, looks at
balances, syncs and reloads. A request is revoked exactly when the registry holds no enabled tenant with its id, and then
nothing changes. Any other is decided on a bucket that has as its capacity what the registry holds as that tenant's budget.
Had the callers of the run believed anything else of their tenants, all answers and the limiter would be the same. After a
sync with the snapshot there are buckets of enabled tenants alone, and each has its tenant's budget. -/
theorem obeys_snapshot {tenants : List TenantConfig} {cost : ℕ} {r : Registry} (made : Registry.make tenants cost = .ok r)
    (us : List Use) :
    let m : Meter α := (start (some r)).run us
    ∃ held : Registry, m.registry = some held ∧
      (∀ (t : Tenant) (n : ℕ) (now : ℤ),
        let asked := m.step (.ask t n now)
        (asked.2 = .admission .revoked ↔ ¬ ∃ u ∈ held.current.tenants, u.id = t.id ∧ u.enabled = true) ∧
        (asked.2 = .admission .revoked → asked.1 = m) ∧
        (asked.2 ≠ .admission .revoked →
          ∃ u ∈ held.current.tenants, u.id = t.id ∧ u.enabled = true ∧
            ∃ b : Bucket α, b = .under (m.bucket? t.id) u.tokensPerMinute now ∧
              b.capacity = Quantity.ofNat u.tokensPerMinute ∧
              asked.2 = .admission (b.tryTake n now).2 ∧
              asked.1 = { m with limiter := ⟨m.limiter.buckets.insert t.id (b.tryTake n now).1⟩ })) ∧
      (∀ vs, List.Forall₂ Alike us vs →
        (start (some r)).run vs = m ∧
          ((start (some r) : Meter α).log vs).map Prod.snd = ((start (some r) : Meter α).log us).map Prod.snd) ∧
      ∀ id b, (m.step (.sync held.current)).1.bucket? id = some b →
        ∃ u ∈ held.current.tenants, u.id = id ∧ u.enabled = true ∧ b.capacity = Quantity.ofNat u.tokensPerMinute := by
  intro m
  have begun : (start (some r) : Meter α).BoundTo r cost := boundTo_start made
  obtain ⟨held, bound⟩ : ∃ held, m.BoundTo held cost := run_boundTo begun us
  refine ⟨held, bound.registry, ?_, ?_, ?_⟩
  · intro t n now
    have revoked := ask_revoked_iff bound t n now
    refine ⟨?_, ?_, ?_⟩
    · rw [revoked, bound.accepted.budget?_eq_none_iff]
    · intro answer
      rw [ask_eq bound, revoked.1 answer]
    · intro answer
      obtain ⟨budget, live⟩ := Option.ne_none_iff_exists'.1 (mt revoked.2 answer)
      obtain ⟨u, member, named, enabled, rfl⟩ := bound.accepted.budget?_eq_some_iff.1 live
      refine ⟨u, member, named, enabled, _, rfl, Bucket.under_capacity _ (bound.accepted.funded u member) now, ?_, ?_⟩
      · rw [ask_eq bound, live]
      · rw [ask_eq bound, live]
  · intro vs alike
    obtain ⟨states, answers⟩ := run_alike begun alike
    exact ⟨states.symm, answers.symm⟩
  · intro id b hb
    exact bucket_sync bound.accepted hb

/-- what a caller believes of a tenant -/
def believed (id : String) (budget : ℕ) : Tenant :=
  { id, displayName := id, enabled := true, backends := [], tokensPerMinute := budget, policy := {} }

/-- two tenants with a hundred tokens a minute each, one of which has a smaller budget later and one of which leaves -/
def twoTenants : List TenantConfig :=
  [{ id := "keep", tokensPerMinute := 100 }, { id := "gone", tokensPerMinute := 100 }]

/-- the registry that holds them -/
def twoTenantsRegistry : Registry := ⟨⟨twoTenants.map .ofConfig, 1⟩, 1⟩

/-- and after the reload -/
def oneTenant : Snapshot := ⟨[.ofConfig { id := "keep", tokensPerMinute := 20 }], 2⟩

/-- both ask, one of them leaves, and the limiter is told -/
def departure : List Use :=
  [.ask (believed "keep" 100) 10 0, .ask (believed "gone" 100) 1 0, .reload [{ id := "keep", tokensPerMinute := 20 }],
    .sync oneTenant]

/-- **A tenant that has left.** Callers that still hold the tenants of before find the one that left revoked, whatever they
believe, and the other under the budget of twenty that it has now. -/
theorem obeys_snapshot_departure :
    Registry.make twoTenants 1 = .ok twoTenantsRegistry ∧
    let m : Meter ℚ := (start (some twoTenantsRegistry)).run departure
    (m.step (.ask (believed "gone" 100) 1 0)).2 = .admission .revoked ∧
      (m.step (.ask (believed "gone" 100) 1 0)).1 = m ∧
      (m.step (.ask (believed "keep" 100) 1 0)).2 = .admission (.admitted 19) := by
  have made : Registry.make twoTenants 1 = .ok twoTenantsRegistry := by rfl
  obtain ⟨held, registry, requests, -⟩ := obeys_snapshot (α := ℚ) made departure
  have current : ((start (some twoTenantsRegistry) : Meter ℚ).run departure).registry = some ⟨oneTenant, 1⟩ := by rfl
  obtain rfl : held = ⟨oneTenant, 1⟩ := Option.some.inj (registry.symm.trans current)
  have gone : ¬ ∃ u ∈ oneTenant.tenants, u.id = "gone" ∧ u.enabled = true := by decide
  obtain ⟨revoked, unchanged, -⟩ := requests (believed "gone" 100) 1 0
  exact ⟨made, revoked.2 gone, unchanged (revoked.2 gone), by decide +kernel⟩

end Meter

end TenantGateway
