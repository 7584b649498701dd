/-
No enabled tenant waits forever (levels read as rationals).

Every budget that a bound limiter takes from its registry pays for one request, so every bucket has room for one
(`Bucket.Roomy`). From there it is a matter of time: `Bucket.Ripe` says that since an instant a bucket has earned what a request
costs, or the part of it that the time was long enough for. A use that charges nothing keeps both (`Fares.ripe`), and after a
minute the bucket holds the cost. `never_starved` is that for every reachable bound limiter.
-/
import TenantGateway.Proofs.Limiter.Bound

namespace TenantGateway

/-- nanoseconds in a minute -/
def oneMinute : ℤ := 60000000000

namespace Bucket

/-! ## Room for a request -/

/-- a sound bucket that can hold what a request costs -/
structure Roomy (b : Bucket ℚ) (cost : ℕ) : Prop extends b.Sound where
  room : (cost : ℚ) ≤ b.capacity

variable {b : Bucket ℚ} {cost n : ℕ}

theorem le_capacityOf (pays : cost ≤ n) : (cost : ℚ) ≤ capacityOf n := by
  unfold capacityOf
  rw [Quantity.ofNat_rat]
  exact_mod_cast pays.trans (le_max_left n 1)

theorem roomy_full (pays : cost ≤ n) (now : ℤ) : (full n now).Roomy cost :=
  ⟨sound_full n now, le_capacityOf pays⟩

theorem Sound.roomy_reconfigure (h : b.Sound) (pays : cost ≤ n) : (b.reconfigure n).Roomy cost :=
  ⟨h.reconfigure n, le_capacityOf pays⟩

theorem Roomy.refill (h : b.Roomy cost) (now : ℤ) : (b.refill now).Roomy cost :=
  ⟨h.toSound.refill now, (refill_capacity b now).symm ▸ h.room⟩

theorem Roomy.tryTake (h : b.Roomy cost) (asked : ℕ) (now : ℤ) : (b.tryTake asked now).1.Roomy cost :=
  ⟨h.toSound.tryTake asked now, (tryTake_capacity b asked now).symm ▸ h.room⟩

/-- who is throttled for a request that the bucket has room for waits for a minute at most -/
theorem Roomy.wait_le (h : b.Roomy cost) : 1 ≤ b.wait cost ∧ b.wait cost ≤ 60 := by
  have positive : 0 < b.capacity := zero_lt_one.trans_le h.one_le
  have bound : ((cost : ℚ) - b.tokens) * 60 / b.capacity ≤ (60 : ℤ) := by
    rw [div_le_iff₀ positive]
    push_cast
    linarith [h.nonneg, h.room]
  have rounded : (((cost : ℚ) - b.tokens) * 60 / b.capacity).ceil ≤ 60 := Rat.ceil_le_iff.2 bound
  have wait : b.wait cost = max 1 (((cost : ℚ) - b.tokens) * 60 / b.capacity).ceil.toNat := rfl
  rw [wait]
  omega

/-! ## Ripening -/

/-- since an instant the bucket has earned the cost of a request, or as much of it as a minute's part is worth -/
structure Ripe (b : Bucket ℚ) (cost : ℕ) (since : ℤ) : Prop extends b.Roomy cost where
  earned : min (cost : ℚ) (secondsTo since b.last * (cost / 60)) ≤ b.tokens

variable {since : ℤ}

/-- a bucket ripens from any instant that is no earlier than its last refill -/
theorem Roomy.ripe (h : b.Roomy cost) (rested : b.last ≤ since) : b.Ripe cost since := by
  have none : secondsTo since b.last = 0 := by
    rw [secondsTo, Int.toNat_of_nonpos (sub_nonpos.2 rested)]
    simp
  refine ⟨h, ?_⟩
  rw [none, zero_mul]
  exact (min_le_right _ _).trans h.nonneg

theorem ripe_full (pays : cost ≤ n) (now since : ℤ) : (full n now).Ripe cost since :=
  ⟨roomy_full pays now, (min_le_left _ _).trans (le_capacityOf pays)⟩

theorem Ripe.reconfigure (h : b.Ripe cost since) (pays : cost ≤ n) : (b.reconfigure n).Ripe cost since := by
  refine ⟨h.toSound.roomy_reconfigure pays, ?_⟩
  rw [reconfigure_last, reconfigure_tokens]
  exact le_min h.earned ((min_le_left _ _).trans (le_capacityOf pays))

theorem secondsTo_max (since last now : ℤ) : secondsTo since (max last now) ≤ secondsTo since last + secondsTo last now := by
  have spans : (max last now - since).toNat ≤ (last - since).toNat + (now - last).toNat := by omega
  have : ((max last now - since).toNat : ℚ) ≤ ((last - since).toNat : ℚ) + ((now - last).toNat : ℚ) := by
    exact_mod_cast spans
  unfold secondsTo
  linarith

/-- a refill earns at the rate of a capacity that is no less than the cost -/
theorem Ripe.refill (h : b.Ripe cost since) (now : ℤ) : (b.refill now).Ripe cost since := by
  refine ⟨h.toRoomy.refill now, ?_⟩
  rw [refill_last, refill_tokens h.toSound]
  refine le_min ?_ ((min_le_left _ _).trans h.room)
  have share : (0 : ℚ) ≤ cost / 60 := by positivity
  have gain : secondsTo b.last now * (cost / 60) ≤ secondsTo b.last now * (b.capacity / 60) :=
    mul_le_mul_of_nonneg_left (div_le_div_of_nonneg_right h.room (by norm_num)) (secondsTo_nonneg _ _)
  have zero : 0 ≤ secondsTo b.last now * (cost / 60) := mul_nonneg (secondsTo_nonneg _ _) share
  -- either the whole cost had been earned before, or what the time until then was worth
  rcases min_le_iff.1 h.earned with whole | part
  · exact (min_le_left _ _).trans (by linarith)
  · refine (min_le_right _ _).trans ?_
    calc secondsTo since (max b.last now) * (cost / 60)
        ≤ (secondsTo since b.last + secondsTo b.last now) * (cost / 60) :=
          mul_le_mul_of_nonneg_right (secondsTo_max since b.last now) share
      _ = secondsTo since b.last * (cost / 60) + secondsTo b.last now * (cost / 60) := by ring
      _ ≤ b.tokens + secondsTo b.last now * (b.capacity / 60) := by linarith

/-- a request that is not charged leaves the bucket ripe -/
theorem Ripe.tryTake (h : b.Ripe cost since) {asked : ℕ} {now : ℤ} (free : (b.tryTake asked now).2.charged asked = 0) :
    (b.tryTake asked now).1.Ripe cost since := by
  rw [tryTake_of_free free]
  exact h.refill now

/-- a minute is enough -/
theorem Ripe.admits (h : b.Ripe cost since) {now : ℤ} (late : since + oneMinute ≤ now) :
    ∃ remaining, (b.tryTake cost now).2 = .admitted remaining := by
  have filled := h.refill now
  have last : since + oneMinute ≤ (b.refill now).last := by
    rw [refill_last]
    exact late.trans (le_max_right _ _)
  have minute : 60 ≤ secondsTo since (b.refill now).last := by
    have spans : (60000000000 : ℕ) ≤ ((b.refill now).last - since).toNat := by
      unfold oneMinute at last
      omega
    have : (60000000000 : ℚ) ≤ (((b.refill now).last - since).toNat : ℚ) := by exact_mod_cast spans
    unfold secondsTo
    linarith
  have enough : (cost : ℚ) ≤ (b.refill now).tokens := by
    refine le_trans (le_min le_rfl ?_) filled.earned
    have share : (0 : ℚ) ≤ cost / 60 := by positivity
    have := mul_le_mul_of_nonneg_right minute share
    linarith
  rcases tryTake_cases b cost now with ⟨-, -, admitted⟩ | ⟨short, -⟩
  · exact admitted
  · simp only [Quantity.le_rat, Quantity.ofNat_rat, decide_eq_false_iff_not] at short
    exact absurd enough short

theorem roomy_under {old : Option (Bucket ℚ)} (sound : ∀ b, old = some b → b.Sound) (pays : cost ≤ n) (now : ℤ) :
    (under old n now).Roomy cost := by
  cases old with
  | none => exact roomy_full pays now
  | some b => exact (sound b rfl).roomy_reconfigure pays

theorem ripe_under {old : Option (Bucket ℚ)} (ripe : ∀ b, old = some b → b.Ripe cost since) (pays : cost ≤ n) (now : ℤ) :
    (under old n now).Ripe cost since := by
  cases old with
  | none => exact ripe_full pays now since
  | some b => exact (ripe b rfl).reconfigure pays

theorem ripe_under_of_rested {old : Option (Bucket ℚ)} (sound : ∀ b, old = some b → b.Sound)
    (rested : ∀ b, old = some b → b.last ≤ since) (pays : cost ≤ n) (now : ℤ) : (under old n now).Ripe cost since := by
  cases old with
  | none => exact ripe_full pays now since
  | some b => exact ((sound b rfl).roomy_reconfigure pays).ripe (rested b rfl)

end Bucket

namespace Meter

/-! ## One use, seen from one tenant -/

section

variable {α : Type} [Quantity α]

/-- a sync is with tenants that can pay for a request, as those are that the registry ever held -/
def Use.KeepsTo (cost : ℕ) : Use → Prop
  | .sync s => s.Accepted cost
  | _ => True

/-- what one use of a bound limiter does to a tenant's bucket and charges it; every budget pays the cost of a request -/
inductive Fares (cost : ℕ) : Option (Bucket α) → Option (Bucket α) → ℕ → Prop where
  | still (b : Option (Bucket α)) : Fares cost b b 0
  | filled (b : Bucket α) (now : ℤ) : Fares cost (some b) (some (b.refill now)) 0
  | dropped (b : Bucket α) : Fares cost (some b) none 0
  | rebudgeted (b : Bucket α) {n : ℕ} (pays : cost ≤ n) : Fares cost (some b) (some (b.reconfigure n)) 0
  | asked (b : Option (Bucket α)) {n : ℕ} (pays : cost ≤ n) (asked : ℕ) (now : ℤ) :
      Fares cost b (some ((Bucket.under b n now).tryTake asked now).1)
        (((Bucket.under b n now).tryTake asked now).2.charged asked)

variable {m : Meter α} {r : Registry} {cost : ℕ}

omit [Quantity α] in
theorem BoundTo.pays (bound : m.BoundTo r cost) {id : String} {n : ℕ} (live : r.current.budget? id = some n) : cost ≤ n :=
  bound.requestCost ▸ bound.accepted.cost_le_budget live

/-- **One use of a bound limiter**, seen from one tenant. -/
theorem step_fares (bound : m.BoundTo r cost) {u : Use} (keeps : u.KeepsTo cost) (id : String) :
    Fares cost (m.bucket? id) ((m.step u).1.bucket? id) (paid id (u, (m.step u).2)) := by
  cases u with
  | ask t n now =>
    rw [ask_eq bound]
    cases budget : r.current.budget? t.id with
    | none =>
      simpa [paid, Admission.charged] using Fares.still (m.bucket? id)
    | some live =>
      by_cases own : t.id = id
      · subst own
        simpa [bucket?, paid, Table.get?_insert] using Fares.asked (m.bucket? t.id) (bound.pays budget) n now
      · have other : ¬ id = t.id := fun h => own h.symm
        simpa [bucket?, paid, own, other, Table.get?_insert] using Fares.still (m.bucket? id)
  | peek j now =>
    have view := Limiter.get?_peek m.limiter j now id
    have after : (m.step (.peek j now)).1.bucket? id = (m.limiter.peek j now).1.buckets.get? id := rfl
    rw [after, view]
    by_cases own : id = j
    · rw [if_pos own]
      cases held : m.limiter.buckets.get? id with
      | none => simpa [bucket?, held, paid] using Fares.still none
      | some b => simpa [bucket?, held, paid] using Fares.filled b now
    · rw [if_neg own]
      exact Fares.still (m.bucket? id)
  | sync s =>
    have accepted : s.Accepted cost := keeps
    have after : (m.step (.sync s)).1.bucket? id = (m.limiter.sync s).buckets.get? id := rfl
    rw [after, Limiter.get?_sync]
    cases held : m.limiter.buckets.get? id with
    | none => simpa [bucket?, held, paid] using Fares.still none
    | some b =>
      cases budget : s.budget? id with
      | none => simpa [bucket?, held, paid] using Fares.dropped b
      | some n =>
        simp only [bucket?, held, paid, Option.bind_some, Option.map_some]
        exact Fares.rebudgeted b (accepted.cost_le_budget budget)
  | reload tenants =>
    have same : (m.step (.reload tenants)).1.bucket? id = m.bucket? id := by
      rw [bucket?, reload_limiter]
      rfl
    rw [same]
    exact Fares.still (m.bucket? id)

end

/-! ## Room and ripeness along a run -/

variable {m : Meter ℚ} {r : Registry} {cost : ℕ}

theorem Fares.roomy {old new : Option (Bucket ℚ)} {spent : ℕ} (h : Fares cost old new spent)
    (roomy : ∀ b, old = some b → b.Roomy cost) : ∀ b, new = some b → b.Roomy cost := by
  rintro b rfl
  cases h with
  | still => exact roomy b rfl
  | filled b now => exact (roomy b rfl).refill now
  | rebudgeted b pays => exact (roomy b rfl).toSound.roomy_reconfigure pays
  | asked old pays n now => exact (Bucket.roomy_under (fun b held => (roomy b held).toSound) pays now).tryTake n now

/-- what is not charged keeps a bucket ripe -/
theorem Fares.ripe {old new : Option (Bucket ℚ)} {spent : ℕ} {since : ℤ} (h : Fares cost old new spent)
    (free : spent = 0) (ripe : ∀ b, old = some b → b.Ripe cost since) : ∀ b, new = some b → b.Ripe cost since := by
  rintro b rfl
  cases h with
  | still => exact ripe b rfl
  | filled b now => exact (ripe b rfl).refill now
  | rebudgeted b pays => exact (ripe b rfl).reconfigure pays
  | asked old pays n now => exact (Bucket.ripe_under ripe pays now).tryTake free

theorem run_roomy (bound : m.BoundTo r cost) {us : List Use} (keep : ∀ u ∈ us, u.KeepsTo cost) (id : String)
    (roomy : ∀ b, m.bucket? id = some b → b.Roomy cost) : ∀ b, (m.run us).bucket? id = some b → b.Roomy cost := by
  induction us generalizing m r with
  | nil => exact roomy
  | cons u us ih =>
    obtain ⟨head, rest⟩ := List.forall_mem_cons.1 keep
    obtain ⟨r', bound'⟩ := step_boundTo bound u
    exact ih bound' rest ((step_fares bound head id).roomy roomy)

theorem run_ripe (bound : m.BoundTo r cost) {us : List Use} (keep : ∀ u ∈ us, u.KeepsTo cost) (id : String) {since : ℤ}
    (free : spent id (m.log us) = 0) (ripe : ∀ b, m.bucket? id = some b → b.Ripe cost since) :
    ∀ b, (m.run us).bucket? id = some b → b.Ripe cost since := by
  induction us generalizing m r with
  | nil => exact ripe
  | cons u us ih =>
    rw [log_cons, spent_cons, Nat.add_eq_zero_iff] at free
    obtain ⟨head, rest⟩ := List.forall_mem_cons.1 keep
    obtain ⟨r', bound'⟩ := step_boundTo bound u
    exact ih bound' rest free.2 ((step_fares bound head id).ripe free.1 ripe)

/-! ## Nobody is starved -/

/-- a tenant is registered and enabled in the snapshot of the moment -/
def Enabled (m : Meter ℚ) (id : String) : Prop :=
  ∃ s, m.authority = some s ∧ ∃ t ∈ s.tenants, t.id = id ∧ t.enabled = true

theorem BoundTo.budget_of_enabled (bound : m.BoundTo r cost) {id : String} (enabled : m.Enabled id) :
    ∃ n, r.current.budget? id = some n := by
  obtain ⟨s, current, t, member, named, on⟩ := enabled
  rw [authority, bound.registry] at current
  obtain rfl : r.current = s := Option.some.inj current
  exact ⟨t.tokensPerMinute, bound.accepted.budget?_eq_some_iff.2 ⟨t, member, named, on, rfl⟩⟩

/-- a request of an enabled tenant is admitted a minute after its bucket has begun to ripen -/
theorem BoundTo.admits (bound : m.BoundTo r cost) {t : Tenant} (enabled : m.Enabled t.id)
    {since now : ℤ} (late : since + oneMinute ≤ now)
    (ripe : ∀ n, cost ≤ n → (Bucket.under (m.bucket? t.id) n now).Ripe cost since) :
    ∃ remaining, (m.step (.ask t cost now)).2 = .admission (.admitted remaining) := by
  obtain ⟨n, live⟩ := bound.budget_of_enabled enabled
  obtain ⟨remaining, admitted⟩ := (ripe n (bound.pays live)).admits late
  rw [ask_eq bound, live]
  exact ⟨remaining, congrArg _ admitted⟩

/-- **Nobody is starved.** Take a limiter that is bound to a registry from its start, after any run of requests, looks at
balances, reloads and syncs, and a tenant that is enabled. A request of the registry's cost is admitted, or throttled for a
minute at most, and it is admitted a minute or more after the last refill of the tenant's bucket. Nobody can put that off
without a charge: if nothing is charged to the tenant from now on and it is still enabled then, such a request is admitted a
minute or more after what is the last refill now, however the limiter is used in between and synced with its registry. -/
theorem never_starved {tenants : List TenantConfig} {cost : ℕ} {r : Registry} (made : Registry.make tenants cost = .ok r)
    (before : List Use) (t : Tenant) :
    let m : Meter ℚ := (start (some r)).run before
    (m.Enabled t.id → ∀ now,
      ((∃ remaining, (m.step (.ask t cost now)).2 = .admission (.admitted remaining)) ∨
        ∃ remaining wait, (m.step (.ask t cost now)).2 = .admission (.throttled remaining wait) ∧ 1 ≤ wait ∧ wait ≤ 60) ∧
      ((∀ b, m.bucket? t.id = some b → b.last + oneMinute ≤ now) →
        ∃ remaining, (m.step (.ask t cost now)).2 = .admission (.admitted remaining))) ∧
    ∀ (meanwhile : List Use) (now : ℤ), (∀ u ∈ before ++ meanwhile, u.KeepsTo cost) →
      spent t.id (m.log meanwhile) = 0 → (m.run meanwhile).Enabled t.id →
      (∀ b, m.bucket? t.id = some b → b.last + oneMinute ≤ now) →
      ∃ remaining, ((m.run meanwhile).step (.ask t cost now)).2 = .admission (.admitted remaining) := by
  intro m
  have begun : (start (some r) : Meter ℚ).BoundTo r cost := boundTo_start made
  have sound : m.Sound := run_sound (sound_start (some r)) before
  obtain ⟨held, bound⟩ : ∃ held, m.BoundTo held cost := run_boundTo begun before
  refine ⟨?_, ?_⟩
  · intro enabled now
    refine ⟨?_, ?_⟩
    · obtain ⟨n, live⟩ := bound.budget_of_enabled enabled
      have roomy := (Bucket.roomy_under (sound t.id) (bound.pays live) now).refill now
      rw [ask_eq bound, live]
      rcases Bucket.tryTake_cases (.under (m.bucket? t.id) n now) cost now with
        ⟨-, -, remaining, admitted⟩ | ⟨-, -, remaining, wait, throttled⟩
      · exact .inl ⟨remaining, congrArg _ admitted⟩
      · obtain ⟨-, rfl⟩ := Bucket.tryTake_throttled throttled
        exact .inr ⟨remaining, _, congrArg _ throttled, roomy.wait_le⟩
    · intro rested
      apply bound.admits enabled (sub_add_cancel now oneMinute).le
      intro n pays
      apply Bucket.ripe_under_of_rested (sound t.id) _ pays now
      intro b hb
      exact le_sub_iff_add_le.2 (rested b hb)
  · intro meanwhile now keep free enabled rested
    have roomy : ∀ b, m.bucket? t.id = some b → b.Roomy cost :=
      run_roomy begun (fun u hu => keep u (List.mem_append_left meanwhile hu)) t.id nofun
    have ripe : ∀ b, m.bucket? t.id = some b → b.Ripe cost (now - oneMinute) := by
      intro b hb
      exact (roomy b hb).ripe (le_sub_iff_add_le.2 (rested b hb))
    have ripened := run_ripe bound (fun u hu => keep u (List.mem_append_right before hu)) t.id free ripe
    obtain ⟨held', bound'⟩ := run_boundTo bound meanwhile
    apply bound'.admits enabled (sub_add_cancel now oneMinute).le
    intro n pays
    exact Bucket.ripe_under ripened pays now

/-- a registry of one tenant with this budget, after this many reloads, where a request costs sixty tokens -/
def soleTenant (budget reloads : ℕ) : Registry :=
  ⟨⟨[.ofConfig { id := "t", tokensPerMinute := budget }], 1 + reloads⟩, 60⟩

/-- the tenant spends its sixty tokens, and then its budget is doubled -/
def spree : List Use :=
  [.ask (believed "t" 60) 60 0, .reload [{ id := "t", tokensPerMinute := 120 }]]

/-- a minute in which its balance is looked at, it asks for too much, and the limiter is told of its new budget -/
def pause : List Use :=
  [.peek "t" 30000000000, .ask (believed "t" 60) 100 40000000000, .sync (soleTenant 120 1).current]

/-- **After a spree.** The bucket was emptied under the old budget, and a minute later it pays for a request. -/
theorem never_starved_after_spree :
    Registry.make [{ id := "t", tokensPerMinute := 60 }] 60 = .ok (soleTenant 60 0) ∧
    let m : Meter ℚ := (start (some (soleTenant 60 0))).run spree
    m.bucket? "t" = some ⟨60, 0, 0⟩ ∧ m.Enabled "t" ∧
    (∀ u ∈ spree ++ pause, u.KeepsTo 60) ∧ spent "t" (m.log pause) = 0 ∧ (m.run pause).Enabled "t" ∧
    (∃ remaining wait, (m.step (.ask (believed "t" 60) 60 0)).2 = .admission (.throttled remaining wait) ∧ wait ≤ 60) ∧
    (∃ remaining, (m.step (.ask (believed "t" 60) 60 oneMinute)).2 = .admission (.admitted remaining)) ∧
    ∃ remaining, ((m.run pause).step (.ask (believed "t" 60) 60 oneMinute)).2 = .admission (.admitted remaining) := by
  have made : Registry.make [{ id := "t", tokensPerMinute := 60 }] 60 = .ok (soleTenant 60 0) := by rfl
  have bucket : ((start (some (soleTenant 60 0)) : Meter ℚ).run spree).bucket? "t" = some ⟨60, 0, 0⟩ := by decide +kernel
  have enabled : ((start (some (soleTenant 60 0)) : Meter ℚ).run spree).Enabled "t" :=
    ⟨(soleTenant 120 1).current, rfl, _, List.mem_cons_self, rfl, rfl⟩
  have accepted : (soleTenant 120 1).current.Accepted 60 := ⟨by decide, by decide, by decide, by decide⟩
  have keep : ∀ u ∈ spree ++ pause, u.KeepsTo 60 := by
    simp [spree, pause, Use.KeepsTo, accepted]
  have free : spent "t" (((start (some (soleTenant 60 0)) : Meter ℚ).run spree).log pause) = 0 := by decide +kernel
  have enabled' : (((start (some (soleTenant 60 0)) : Meter ℚ).run spree).run pause).Enabled "t" :=
    ⟨(soleTenant 120 1).current, rfl, _, List.mem_cons_self, rfl, rfl⟩
  have answer : (((start (some (soleTenant 60 0)) : Meter ℚ).run spree).step (.ask (believed "t" 60) 60 0)).2 =
      .admission (.throttled 0 30) := by decide +kernel
  obtain ⟨always, late⟩ := never_starved made spree (believed "t" 60)
  have rested : ∀ b, ((start (some (soleTenant 60 0)) : Meter ℚ).run spree).bucket? "t" = some b →
      b.last + oneMinute ≤ oneMinute := by
    intro b hb
    obtain rfl : (⟨60, 0, 0⟩ : Bucket ℚ) = b := Option.some.inj (bucket.symm.trans hb)
    exact le_rfl
  refine ⟨made, bucket, enabled, keep, free, enabled', ?_, (always enabled oneMinute).2 rested,
    late pause oneMinute keep free enabled' rested⟩
  rcases (always enabled 0).1 with ⟨remaining, admitted⟩ | ⟨remaining, wait, throttled, -, bound⟩
  · rw [answer] at admitted
    cases admitted
  · exact ⟨remaining, wait, throttled, bound⟩

end Meter

end TenantGateway
