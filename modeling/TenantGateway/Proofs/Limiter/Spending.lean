/-
How much a tenant can spend (levels read as rationals).

`run_afford` follows one bucket through a run that never takes it away: what is spent adds up use by use (`Afford.trans`),
paid from what the bucket held and from what its capacity earned while `last` went forward. Time is credited once, because
`last` only moves with the latest reading. `spending_bound` is that for every reachable limiter, with the largest capacity
the bucket had on the way.
-/
import TenantGateway.Proofs.Limiter.Meter

namespace TenantGateway

namespace Meter

/-- the capacities that a tenant's bucket has before, during and after a run -/
def capacities (m : Meter ℚ) (id : String) (us : List Use) : Set ℚ :=
  { c | ∃ k ≤ us.length, ∃ b, (m.run (us.take k)).bucket? id = some b ∧ b.capacity = c }

/-- a run that never takes a bucket away: it moved on, its `last` is the latest reading, and what was spent was afforded -/
theorem run_afford (m : Meter ℚ) (hm : m.Sound) (us : List Use) (id : String) (b : Bucket ℚ) (hb : m.bucket? id = some b)
    (kept : ∀ k ≤ us.length, (m.run (us.take k)).bucket? id ≠ none) (rate : ℚ)
    (hrate : ∀ c ∈ m.capacities id us, c ≤ rate) :
    ∃ c, (m.run us).bucket? id = some c ∧ c.last = latest id b.last (m.log us) ∧
      b.Afford rate c (spent id (m.log us)) := by
  induction us generalizing m b with
  | nil => exact ⟨b, hb, rfl, Bucket.Afford.refl rate b⟩
  | cons u us ih =>
    have kept' : ∀ k ≤ us.length, ((m.step u).1.run (us.take k)).bucket? id ≠ none :=
      fun k hk => kept (k + 1) (Nat.succ_le_succ hk)
    have hrate' : ∀ c ∈ (m.step u).1.capacities id us, c ≤ rate := by
      rintro c ⟨k, hk, b', hb', rfl⟩
      exact hrate _ ⟨k + 1, Nat.succ_le_succ hk, b', hb', rfl⟩
    rcases bucket_step m u id b hb with gone | ⟨b', hb', moved⟩
    · exact absurd gone (kept' 0 (Nat.zero_le _))
    · obtain ⟨c, hc, last, afford⟩ := ih (m.step u).1 (step_sound hm u) b' hb' kept' hrate'
      refine ⟨c, hc, ?_, ?_⟩
      · rw [log_cons, latest_cons, ← moved.last_eq]
        exact last
      · rw [log_cons, spent_cons]
        have first := moved.afford (hm id b hb)
        have le : b'.capacity ≤ rate := hrate' _ ⟨0, Nat.zero_le _, b', hb', rfl⟩
        exact (first.mono le).trans afford

/-- a bucket that is never taken away has a largest capacity on the way -/
theorem exists_greatest_capacity (m : Meter ℚ) (us : List Use) (id : String)
    (kept : ∀ k ≤ us.length, (m.run (us.take k)).bucket? id ≠ none) :
    ∃ rate, IsGreatest (m.capacities id us) rate := by
  let capacityAt (k : ℕ) : ℚ := (((m.run (us.take k)).bucket? id).map Bucket.capacity).getD 0
  obtain ⟨k, hk, greatest⟩ :=
    Finset.exists_max_image (Finset.range (us.length + 1)) capacityAt ⟨0, Finset.mem_range.2 (Nat.succ_pos _)⟩
  have hk : k ≤ us.length := Nat.lt_succ_iff.1 (Finset.mem_range.1 hk)
  obtain ⟨b, hb⟩ := Option.ne_none_iff_exists'.1 (kept k hk)
  refine ⟨capacityAt k, ⟨k, hk, b, hb, ?_⟩, ?_⟩
  · simp [capacityAt, hb]
  · rintro c ⟨j, hj, b', hb', rfl⟩
    have := greatest j (Finset.mem_range.2 (Nat.lt_succ_iff.2 hj))
    simpa [capacityAt, hb'] using this

/-- **Spending bound.** Take any reachable limiter, bound to a registry or not, in which a tenant has a bucket, and any run
that never takes this bucket away. After every step the bucket holds at least nothing and at most its capacity, and `last`
is the latest of where it was and the readings so far. The run's admitted requests of the tenant cost no more than the
bucket held at first and what the largest capacity it had on the way earns from the first `last` to the final one. -/
theorem spending_bound (registry : Option Registry) (before us : List Use) (id : String) (b : Bucket ℚ)
    (hb : ((start registry : Meter ℚ).run before).bucket? id = some b)
    (kept : ∀ k ≤ us.length, (((start registry : Meter ℚ).run before).run (us.take k)).bucket? id ≠ none) :
    let m : Meter ℚ := (start registry).run before
    (∀ k ≤ us.length, ∃ c, (m.run (us.take k)).bucket? id = some c ∧ 0 ≤ c.tokens ∧ c.tokens ≤ c.capacity ∧
      c.last = latest id b.last (m.log (us.take k))) ∧
    ∃ c rate, (m.run us).bucket? id = some c ∧ IsGreatest (m.capacities id us) rate ∧
      (spent id (m.log us) : ℚ) ≤ b.tokens + rate / 60 * (((c.last - b.last : ℤ) : ℚ) / 1000000000) := by
  intro m
  have hm : m.Sound := run_sound (sound_start registry) before
  obtain ⟨rate, greatest⟩ := exists_greatest_capacity m us id kept
  refine ⟨fun k hk => ?_, ?_⟩
  · have length : (us.take k).length = k := by simpa using hk
    have take_take : ∀ j ≤ (us.take k).length, (us.take k).take j = us.take j := by
      intro j hj
      rw [List.take_take, min_eq_left (length ▸ hj)]
    have kept' : ∀ j ≤ (us.take k).length, (m.run ((us.take k).take j)).bucket? id ≠ none := by
      intro j hj
      rw [take_take j hj]
      exact kept j ((length ▸ hj : j ≤ k).trans hk)
    obtain ⟨rate', greatest'⟩ := exists_greatest_capacity m (us.take k) id kept'
    obtain ⟨c, hc, last, -⟩ := run_afford m hm (us.take k) id b hb kept' rate' greatest'.2
    have sound := run_sound hm (us.take k) id c hc
    exact ⟨c, hc, sound.nonneg, sound.le_capacity, last⟩
  · obtain ⟨c, hc, -, afford⟩ := run_afford m hm us id b hb kept rate greatest.2
    have paid := afford.paid
    have nonneg := (run_sound hm us id c hc).nonneg
    exact ⟨c, rate, hc, greatest, by linarith⟩

/-- a tenant by its budget -/
def payer (budget : ℕ) : Tenant :=
  { id := "t", displayName := "t", enabled := true, backends := [], tokensPerMinute := budget, policy := {} }

/-- readings that go back and repeat, and two changes of the budget -/
def untidyRun : List Use :=
  [.ask (payer 60) 5 10000000000, .ask (payer 60) 3 4000000000, .ask (payer 120) 20 20000000000, .peek "t" 1000000000,
    .ask (payer 30) 2 20000000000]

/-- **An untidy run.** A bucket of sixty was just emptied; thirty tokens are spent within twenty seconds, in which the
largest capacity, a hundred and twenty, earns forty. -/
theorem spending_bound_untidy :
    let m : Meter ℚ := (start none).run [.ask (payer 60) 60 0]
    m.bucket? "t" = some ⟨60, 0, 0⟩ ∧ (∀ k ≤ untidyRun.length, (m.run (untidyRun.take k)).bucket? "t" ≠ none) ∧
    spent "t" (m.log untidyRun) = 30 ∧
    ∃ c rate, (m.run untidyRun).bucket? "t" = some c ∧ IsGreatest (m.capacities "t" untidyRun) rate ∧
      (spent "t" (m.log untidyRun) : ℚ) ≤ 0 + rate / 60 * (((c.last - 0 : ℤ) : ℚ) / 1000000000) :=
  ⟨by decide +kernel, by decide +kernel, by decide +kernel,
    (spending_bound none [.ask (payer 60) 60 0] untidyRun "t" ⟨60, 0, 0⟩ (by decide +kernel) (by decide +kernel)).2⟩

end Meter

end TenantGateway
