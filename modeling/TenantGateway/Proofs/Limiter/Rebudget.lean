/-
What a change of its budget does to the tokens a tenant has earned (levels read as rationals).

`Bucket.level` is what a bucket comes to in a span of time, and `Bucket.available` what it holds at an instant if nothing is
charged until then. Looks at it and refused requests make no difference to that (`run_available`).
A new budget is not told from which instant on it applies: the bucket earns at the new rate for all the time since its last
refill. `budget_change` says what that comes to, and exactly when it is what the tenant had earned under the old budget and
has earned under the new one since. `accrual_not_kept` is a cut that takes tokens away and a raise that gives too many.
-/
import TenantGateway.Proofs.Limiter.Spending

namespace TenantGateway

namespace Bucket

/-! ## Levels -/

/-- what a bucket of a capacity holds after some seconds, if it holds `tokens` and nothing is charged -/
def level (tokens capacity seconds : ℚ) : ℚ :=
  min (tokens + seconds * (capacity / 60)) capacity

variable {tokens capacity s s' : ℚ}

theorem level_zero (le : tokens ≤ capacity) : level tokens capacity 0 = tokens := by
  simp [level, le]

/-- a span of time may be cut in two -/
theorem level_level (nonneg : 0 ≤ capacity) (later : 0 ≤ s') :
    level (level tokens capacity s) capacity s' = level tokens capacity (s + s') := by
  have earned : 0 ≤ s' * (capacity / 60) := mul_nonneg later (div_nonneg nonneg (by norm_num))
  unfold level
  calc min (min (tokens + s * (capacity / 60)) capacity + s' * (capacity / 60)) capacity
      = min (min (tokens + s * (capacity / 60) + s' * (capacity / 60)) (capacity + s' * (capacity / 60))) capacity := by
        rw [min_add_add_right]
    _ = min (tokens + s * (capacity / 60) + s' * (capacity / 60)) capacity := by
        rw [min_assoc, min_eq_right (le_add_of_nonneg_right earned)]
    _ = min (tokens + (s + s') * (capacity / 60)) capacity := by
        rw [add_mul, add_assoc]

theorem secondsTo_self (t : ℤ) : secondsTo t t = 0 := by
  rw [secondsTo_of_le le_rfl, sub_self, Int.cast_zero, zero_div]

theorem secondsTo_eq_zero_iff {last t : ℤ} (idle : last ≤ t) : secondsTo last t = 0 ↔ last = t := by
  have inNanoseconds : (1000000000 : ℚ) ≠ 0 := by norm_num
  rw [secondsTo_of_le idle, div_eq_zero_iff, or_iff_left inNanoseconds, Int.cast_eq_zero, sub_eq_zero, eq_comm]

theorem secondsTo_add {a b c : ℤ} (first : a ≤ b) (second : b ≤ c) : secondsTo a c = secondsTo a b + secondsTo b c := by
  rw [secondsTo_of_le first, secondsTo_of_le second, secondsTo_of_le (first.trans second)]
  push_cast
  ring

/-! ## What a bucket holds at an instant -/

/-- the tokens that a bucket holds at an instant, if nothing is charged until then -/
def available (b : Bucket ℚ) (now : ℤ) : ℚ :=
  (b.refill now).tokens

variable {b b' : Bucket ℚ} {now reading : ℤ}

theorem Sound.available_eq (h : b.Sound) (now : ℤ) :
    b.available now = level b.tokens b.capacity (secondsTo b.last now) :=
  refill_tokens h now

/-- a refill on the way makes no difference -/
theorem Sound.available_refill (h : b.Sound) (past : reading ≤ now) : (b.refill reading).available now = b.available now := by
  rcases le_total reading b.last with early | late
  · have same : b.refill reading = b := if_pos early
    rw [same]
  · have last : (b.refill reading).last = reading := by rw [refill_last, max_eq_right late]
    have filled : (b.refill reading).tokens = level b.tokens b.capacity (secondsTo b.last reading) := refill_tokens h reading
    rw [(h.refill reading).available_eq, h.available_eq, refill_capacity, last, filled,
      level_level (zero_le_one.trans h.one_le) (secondsTo_nonneg _ _), ← secondsTo_add late past]

/-- a budget that the bucket has already changes nothing -/
theorem Sound.reconfigure_self (h : b.Sound) {n : ℕ} (same : capacityOf n = b.capacity) : b.reconfigure n = b := by
  have kept : min b.tokens (capacityOf n) = b.tokens := by rw [same, min_eq_left h.le_capacity]
  rw [Bucket.reconfigure, Quantity.min_rat, kept, same]

/-- what charges nothing and leaves the budget makes no difference -/
theorem Moved.available {reading : Option ℤ} (moved : b.Moved b' reading 0) (h : b.Sound)
    (steady : b'.capacity = b.capacity) (past : ∀ r, reading = some r → r ≤ now) : b'.available now = b.available now := by
  generalize spent : (0 : ℕ) = cost at moved
  cases moved with
  | still => rfl
  | rebudgeted n => rw [h.reconfigure_self steady]
  | filled r => exact h.available_refill (past r rfl)
  | asked n cost r =>
    rw [tryTake_capacity] at steady
    rw [h.reconfigure_self steady] at spent ⊢
    rw [tryTake_of_free spent.symm]
    exact h.available_refill (past r rfl)

/-! ## A new budget -/

/-- the new rate counts from the last refill on -/
theorem Sound.available_reconfigure (h : b.Sound) (n : ℕ) (now : ℤ) :
    (b.reconfigure n).available now =
      level (min b.tokens (capacityOf n)) (capacityOf n) (secondsTo b.last now) := by
  rw [(h.reconfigure n).available_eq, reconfigure_tokens]
  rfl

/-- exactly when a bucket that was idle for `s` seconds holds under a new capacity what it had earned under the old one -/
theorem level_rebudgeted_iff {old new : ℚ} (le : tokens ≤ old) (nonneg : 0 ≤ new) (idle : 0 ≤ s) :
    level (min tokens new) new s = min (level tokens old s) new ↔
      s = 0 ∨ new = old ∨ new < old ∧ new ≤ tokens + s * (new / 60) := by
  rcases idle.eq_or_lt with rfl | idle
  · simp [level_zero, le]
  rcases lt_trichotomy new old with cut | same | raise
  · have faster : s * (new / 60) < s * (old / 60) := by gcongr
    have earned : 0 ≤ s * (new / 60) := by positivity
    have right : min (level tokens old s) new = min (tokens + s * (old / 60)) new := by
      rw [level, min_assoc, min_eq_right cut.le]
    rw [right]
    constructor
    · intro kept
      refine .inr (.inr ⟨cut, ?_⟩)
      by_contra! short
      have below : tokens ≤ new := by linarith
      have left : level (min tokens new) new s = tokens + s * (new / 60) := by
        rw [level, min_eq_left below, min_eq_left short.le]
      have more : tokens + s * (new / 60) < min (tokens + s * (old / 60)) new := lt_min (by linarith) short
      exact more.ne (left.symm.trans kept)
    · rintro (rfl | rfl | ⟨-, full⟩)
      · exact absurd idle (lt_irrefl 0)
      · exact absurd cut (lt_irrefl new)
      · have left : new ≤ min tokens new + s * (new / 60) := by
          rw [min_add]
          exact le_min full (le_add_of_nonneg_right earned)
        rw [level, min_eq_right left, min_eq_right (full.trans (by linarith))]
  · subst same
    have left : level tokens new s ≤ new := min_le_right _ _
    simp [min_eq_left le, min_eq_left left]
  · have faster : s * (old / 60) < s * (new / 60) := by gcongr
    have more : min (level tokens old s) new < level (min tokens new) new s := by
      rw [min_eq_left (le.trans raise.le)]
      refine lt_min ?_ ?_
      · exact ((min_le_left _ _).trans (min_le_left _ _)).trans_lt (by linarith)
      · exact ((min_le_left _ _).trans (min_le_right _ _)).trans_lt raise
    refine iff_of_false more.ne' ?_
    rintro (rfl | rfl | ⟨cut, -⟩)
    · exact absurd idle (lt_irrefl 0)
    · exact absurd raise (lt_irrefl new)
    · exact absurd cut raise.not_gt

/-- the same at an instant `t` and at every later one: it is decided at `t` -/
theorem rebudgeted_from_iff {old new : ℚ} (le : tokens ≤ old) (nonneg : 0 ≤ new) {last t : ℤ} (idle : last ≤ t) :
    (∀ now, t ≤ now → level (min tokens new) new (secondsTo last now) =
        level (min (level tokens old (secondsTo last t)) new) new (secondsTo t now)) ↔
      last = t ∨ new = old ∨ new < old ∧ new ≤ tokens + secondsTo last t * (new / 60) := by
  rw [← secondsTo_eq_zero_iff idle, ← level_rebudgeted_iff le nonneg (secondsTo_nonneg last t)]
  constructor
  · intro kept
    rw [kept t le_rfl, secondsTo_self, level_zero (min_le_right _ _)]
  · intro kept now late
    rw [← kept, level_level nonneg (secondsTo_nonneg t now), secondsTo_add idle late]

end Bucket

namespace Meter

open Bucket

variable {m : Meter ℚ} {id : String} {b : Bucket ℚ} {now : ℤ}

/-! ## Quiet runs -/

/-- a tenant's bucket is left alone until an instant: it stays and keeps its capacity, and nothing is charged -/
structure Quiet (m : Meter ℚ) (id : String) (capacity : ℚ) (now : ℤ) (us : List Use) : Prop where
  steady : ∀ k ≤ us.length, ∃ c, (m.run (us.take k)).bucket? id = some c ∧ c.capacity = capacity
  free : spent id (m.log us) = 0
  past : ∀ e ∈ m.log us, ∀ r, reading? id e = some r → r ≤ now

theorem Quiet.tail {capacity : ℚ} {u : Use} {us : List Use} (quiet : m.Quiet id capacity now (u :: us)) :
    (m.step u).1.Quiet id capacity now us where
  steady k hk := quiet.steady (k + 1) (Nat.succ_le_succ hk)
  free := by
    have free := quiet.free
    rw [log_cons, spent_cons, Nat.add_eq_zero_iff] at free
    exact free.2
  past e he := quiet.past e (log_cons m u us ▸ List.mem_cons_of_mem _ he)

/-- a quiet run makes no difference to what a bucket holds at its end -/
theorem run_available (hm : m.Sound) (hb : m.bucket? id = some b) {us : List Use}
    (quiet : m.Quiet id b.capacity now us) :
    ∃ c, (m.run us).bucket? id = some c ∧ c.available now = b.available now := by
  induction us generalizing m b with
  | nil => exact ⟨b, hb, rfl⟩
  | cons u us ih =>
    obtain ⟨b', hb', steady⟩ := quiet.tail.steady 0 (Nat.zero_le _)
    have hb' : (m.step u).1.bucket? id = some b' := hb'
    rcases bucket_step m u id b hb with gone | ⟨b'', hb'', moved⟩
    · simp [gone] at hb'
    · obtain rfl : b'' = b' := Option.some.inj (hb''.symm.trans hb')
      have free : paid id (u, (m.step u).2) = 0 := by
        have free := quiet.free
        rw [log_cons, spent_cons, Nat.add_eq_zero_iff] at free
        exact free.1
      rw [free] at moved
      have past := quiet.past (u, (m.step u).2) (log_cons m u us ▸ List.mem_cons_self)
      have same := moved.available (hm id b hb) steady past
      obtain ⟨c, hc, last⟩ := ih (step_sound hm u) hb' (steady ▸ quiet.tail)
      exact ⟨c, hc, last.trans same⟩

/-- a look at a balance tells what the bucket holds, in whole tokens -/
theorem peek_eq (hb : m.bucket? id = some b) (now : ℤ) :
    (m.step (.peek id now)).2 = .balance (some (b.available now).floor.toNat) := by
  simp only [step, Limiter.peek, show m.limiter.buckets.get? id = some b from hb]
  rfl

/-! ## Changes of a budget -/

/-- a new budget takes effect for a tenant at an instant: by a sync, or by a request for which nothing is charged -/
inductive TakesOn (m : Meter ℚ) (id : String) (n : ℕ) (t : ℤ) : Use → Prop
  | synced {s : Snapshot} (budget : s.budget? id = some n) : TakesOn m id n t (.sync s)
  | asked {tenant : Tenant} {cost : ℕ} (own : tenant.id = id) (budget : Limiter.liveBudget m.authority tenant = some n)
      (free : paid id (.ask tenant cost t, (m.step (.ask tenant cost t)).2) = 0) : TakesOn m id n t (.ask tenant cost t)

/-- the bucket has the new budget then, and holds what it holds under this budget -/
theorem TakesOn.bucket {n : ℕ} {t : ℤ} {u : Use} (change : m.TakesOn id n t u) (hm : m.Sound)
    (hb : m.bucket? id = some b) :
    ∃ b', (m.step u).1.bucket? id = some b' ∧ b'.capacity = capacityOf n ∧
      ∀ now, t ≤ now → b'.available now = (b.reconfigure n).available now := by
  cases change with
  | @synced s budget =>
    refine ⟨b.reconfigure n, ?_, rfl, fun _ _ => rfl⟩
    have view := Limiter.get?_sync m.limiter s id
    rwa [show m.limiter.buckets.get? id = some b from hb, Option.bind_some, budget] at view
  | @asked tenant cost own budget free =>
    have purse : m.limiter.purse tenant.id n t = b.reconfigure n := by
      rw [own, Limiter.purse, show m.limiter.buckets.get? id = some b from hb]
      rfl
    rw [ask_of_budget budget, purse] at free ⊢
    have filled : ((b.reconfigure n).tryTake cost t).1 = (b.reconfigure n).refill t :=
      tryTake_of_free (by simpa [paid, own] using free)
    refine ⟨(b.reconfigure n).refill t, ?_, ?_, ?_⟩
    · simp [bucket?, Table.get?_insert, own, filled]
    · rw [refill_capacity, reconfigure_capacity]
    · intro now late
      exact ((hm id b hb).reconfigure n).available_refill late

/-- **A change of a budget.** Take any reachable limiter, bound to a registry or not, a tenant's bucket, and an instant no
earlier than its last refill, at which a new budget takes effect: by a sync, or by a request for which nothing is charged. At
that instant and at every later one until which the bucket is left alone, it holds what it held at its last refill, as far as
the new capacity has room for it, and what the new capacity has earned since then; a look at it tells this in whole tokens.
That is what the tenant had earned under the old budget, as far as there is room for it, and what the new one has earned from
the change on, if and only if the last refill was at the change, or the capacity is the old one, or the capacity is cut and the
time since the last refill fills the bucket at the new rate already. -/
theorem budget_change (registry : Option Registry) (before : List Use) (id : String) (b : Bucket ℚ)
    (held : ((start registry : Meter ℚ).run before).bucket? id = some b) (n : ℕ) (t : ℤ) (idle : b.last ≤ t) (u : Use)
    (change : ((start registry : Meter ℚ).run before).TakesOn id n t u) :
    let m : Meter ℚ := (((start registry : Meter ℚ).run before).step u).1
    let new : ℚ := capacityOf n
    let accrued := level b.tokens b.capacity (secondsTo b.last t)
    (∀ now later, t ≤ now → m.Quiet id new now later →
      ∃ c, (m.run later).bucket? id = some c ∧ c.available now = level (min b.tokens new) new (secondsTo b.last now) ∧
        ((m.run later).step (.peek id now)).2 =
          .balance (some (level (min b.tokens new) new (secondsTo b.last now)).floor.toNat)) ∧
    ((∀ now, t ≤ now →
        level (min b.tokens new) new (secondsTo b.last now) = level (min accrued new) new (secondsTo t now)) ↔
      b.last = t ∨ new = b.capacity ∨ new < b.capacity ∧ new ≤ b.tokens + secondsTo b.last t * (new / 60)) := by
  intro m new accrued
  have sound : ((start registry : Meter ℚ).run before).Sound := run_sound (sound_start registry) before
  have old : b.Sound := sound id b held
  constructor
  · intro now later late quiet
    obtain ⟨b', hb', capacity, holds⟩ := change.bucket sound held
    rw [show new = b'.capacity from capacity.symm] at quiet
    obtain ⟨c, hc, same⟩ := run_available (step_sound sound u) hb' quiet
    have level : c.available now = level (min b.tokens new) new (secondsTo b.last now) :=
      same.trans ((holds now late).trans (old.available_reconfigure n now))
    refine ⟨c, hc, level, ?_⟩
    rw [peek_eq hc, level]
  · exact rebudgeted_from_iff old.le_capacity (zero_le_one.trans (one_le_capacityOf n)) idle

/-- what a tenant asked for first has emptied its bucket -/
def emptied (budget : ℕ) : List Use :=
  [.ask (payer budget) budget 0]

/-- nothing is charged for a request that costs nothing, and it tells the budget -/
def told (budget : ℕ) (now : ℤ) : Use :=
  .ask (payer budget) 0 now

def halfMinute : ℤ := 30000000000

/-- it asks for more than there is room for, and its balance is looked at -/
def patience : List Use :=
  [.ask (payer 60) 100 40000000000, .peek "t" 45000000000]

/-- **After a cut.** A bucket of six hundred was emptied, and half a minute later it is cut to sixty. After twenty seconds more
it holds fifty tokens, as if it had been a bucket of sixty from the beginning, and not the sixty that the tenant had kept. -/
theorem budget_change_cut :
    let m : Meter ℚ := (start none).run (emptied 600)
    let cut : Meter ℚ := (m.step (told 60 halfMinute)).1
    m.bucket? "t" = some ⟨600, 0, 0⟩ ∧ (0 : ℤ) ≤ halfMinute ∧ m.TakesOn "t" 60 halfMinute (told 60 halfMinute) ∧
    cut.Quiet "t" (capacityOf 60) 50000000000 patience ∧
    ((cut.run patience).step (.peek "t" 50000000000)).2 = .balance (some 50) ∧
    ¬ ∀ now, halfMinute ≤ now → level (min 0 60) 60 (secondsTo 0 now) =
      level (min (level 0 600 (secondsTo 0 halfMinute)) 60) 60 (secondsTo halfMinute now) := by
  intro m cut
  have held : m.bucket? "t" = some ⟨600, 0, 0⟩ := by decide +kernel
  have idle : (0 : ℤ) ≤ halfMinute := by decide
  have change : m.TakesOn "t" 60 halfMinute (told 60 halfMinute) := .asked rfl rfl (by decide +kernel)
  have capacities : ∀ k ≤ patience.length, ((cut.run (patience.take k)).bucket? "t").map Bucket.capacity = some (capacityOf 60) := by
    decide +kernel
  have quiet : cut.Quiet "t" (capacityOf 60) 50000000000 patience :=
    ⟨fun k hk => Option.map_eq_some_iff.1 (capacities k hk), by decide +kernel, by decide +kernel⟩
  obtain ⟨levels, keeps⟩ := budget_change none (emptied 600) "t" ⟨600, 0, 0⟩ held 60 halfMinute idle _ change
  obtain ⟨c, -, -, balance⟩ := levels 50000000000 patience (by decide) quiet
  have fifty : (level (min 0 (capacityOf 60)) (capacityOf 60) (secondsTo 0 50000000000)).floor.toNat = 50 := by decide +kernel
  refine ⟨held, idle, change, quiet, ?_, ?_⟩
  · exact fifty ▸ balance
  · have capacity : (60 : ℚ) = capacityOf 60 := by decide +kernel
    rw [capacity, keeps]
    decide +kernel

/-- **A cut takes tokens away, and a raise gives too many.** A bucket of six hundred was emptied half a minute ago, so three
hundred have come in. It is cut to sixty, which it has had since long: it holds thirty. A bucket of sixty was emptied half a
minute ago, so thirty have come in. It is raised to six hundred: it holds three hundred. -/
theorem accrual_not_kept :
    (∃ b, ((start none : Meter ℚ).run (emptied 600)).bucket? "t" = some b ∧ b.capacity = 600 ∧ b.available halfMinute = 300 ∧
      ∃ c, ((start none : Meter ℚ).run (emptied 600 ++ [told 60 halfMinute])).bucket? "t" = some c ∧
        c.capacity = 60 ∧ c.available halfMinute = 30 ∧ level (min 300 60) 60 (secondsTo halfMinute halfMinute) = 60) ∧
    ∃ b, ((start none : Meter ℚ).run (emptied 60)).bucket? "t" = some b ∧ b.capacity = 60 ∧ b.available halfMinute = 30 ∧
      ∃ c, ((start none : Meter ℚ).run (emptied 60 ++ [told 600 halfMinute])).bucket? "t" = some c ∧
        c.capacity = 600 ∧ c.available halfMinute = 300 ∧ level (min 30 600) 600 (secondsTo halfMinute halfMinute) = 30 :=
  ⟨⟨⟨600, 0, 0⟩, by decide +kernel, by decide +kernel, by decide +kernel, ⟨60, 30, halfMinute⟩, by decide +kernel,
      by decide +kernel, by decide +kernel, by decide +kernel⟩,
    ⟨60, 0, 0⟩, by decide +kernel, by decide +kernel, by decide +kernel, ⟨600, 300, halfMinute⟩, by decide +kernel,
      by decide +kernel, by decide +kernel, by decide +kernel⟩

end Meter

end TenantGateway
