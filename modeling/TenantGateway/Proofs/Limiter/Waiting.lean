/-
How long a throttled request has to wait (levels read as rationals).

A bucket that lacks a part of a cost holds the cost exactly when it has filled for as long as its capacity takes to earn that part
(`Sound.affords_iff`), and the wait is this time in whole seconds, rounded up (`Sound.wait_le_iff`). Filling on the way makes no
difference (`Sound.refill_refill`), so a bucket that is left alone is known by the latest reading that came to it
(`Quiet.bucket`).
- `wait_exact`: who waits as long as it was told is admitted, who asks a whole second earlier is not, and a cost that the bucket
  has no room for is never admitted.
-/
import TenantGateway.Proofs.Limiter.Rebudget

namespace TenantGateway

namespace Bucket

variable {b b' : Bucket ℚ} {cost : ℕ}

/-! ## Filling on the way -/

theorem eq_of_parts (capacity : b.capacity = b'.capacity) (tokens : b.tokens = b'.tokens) (last : b.last = b'.last) : b = b' := by
  cases b
  cases b'
  rw [Bucket.mk.injEq]
  exact ⟨capacity, tokens, last⟩

/-- filling up twice is filling up to the later instant -/
theorem Sound.refill_refill (h : b.Sound) (first second : ℤ) :
    (b.refill first).refill second = b.refill (max first second) := by
  have level : ((b.refill first).refill second).tokens = (b.refill (max first second)).tokens := by
    rcases le_total first second with forward | backward
    · rw [max_eq_right forward]
      exact h.available_refill forward
    · have past : second ≤ (b.refill first).last := by
        rw [refill_last]
        exact backward.trans (le_max_right _ _)
      have same : (b.refill first).refill second = b.refill first := if_pos past
      rw [same, max_eq_left backward]
  have capacity : ((b.refill first).refill second).capacity = (b.refill (max first second)).capacity := by
    simp only [refill_capacity]
  have last : ((b.refill first).refill second).last = (b.refill (max first second)).last := by
    simp only [refill_last, max_assoc]
  exact eq_of_parts capacity level last

theorem le_later (last : ℤ) (reading : Option ℤ) : last ≤ later last reading := by
  cases reading with
  | none => exact le_rfl
  | some r => exact le_max_left _ _

theorem later_le {last now : ℤ} (begun : last ≤ now) {reading : Option ℤ} (past : ∀ r, reading = some r → r ≤ now) :
    later last reading ≤ now := by
  cases reading with
  | none => exact begun
  | some r => exact max_le begun (past r rfl)

theorem refill_self (b : Bucket ℚ) : b.refill b.last = b := if_pos le_rfl

/-- and so is charging after filling up -/
theorem Sound.tryTake_refill (h : b.Sound) (first second : ℤ) :
    (b.refill first).tryTake cost second = b.tryTake cost (max first second) := by
  unfold Bucket.tryTake
  rw [h.refill_refill]

/-- what charges nothing and leaves the budget is a refill up to the reading it brings, if it brings one -/
theorem Moved.refilled {reading : Option ℤ} (moved : b.Moved b' reading 0) (h : b.Sound) (steady : b'.capacity = b.capacity) :
    b' = b.refill (later b.last reading) := by
  generalize spent : (0 : ℕ) = charge at moved
  have filled (now : ℤ) : b.refill now = b.refill (later b.last (some now)) := by
    have twice := h.refill_refill b.last now
    rwa [refill_self] at twice
  cases moved with
  | still => exact (refill_self b).symm
  | rebudgeted n =>
    rw [h.reconfigure_self steady]
    exact (refill_self b).symm
  | filled now => exact filled now
  | asked n asked now =>
    rw [tryTake_capacity] at steady
    rw [h.reconfigure_self steady] at spent ⊢
    rw [tryTake_of_free spent.symm]
    exact filled now

/-! ## The time that a deficit takes -/

/-- what a bucket lacks is earned in this many seconds -/
def shortfall (b : Bucket ℚ) (cost : ℕ) : ℚ :=
  (cost - b.tokens) * 60 / b.capacity

/-- a bucket with room for a cost holds it from the time on that its deficit takes -/
theorem Sound.affords_iff (h : b.Sound) (room : (cost : ℚ) ≤ b.capacity) (now : ℤ) :
    (cost : ℚ) ≤ (b.refill now).tokens ↔ b.shortfall cost ≤ secondsTo b.last now := by
  have positive : 0 < b.capacity := zero_lt_one.trans_le h.one_le
  rw [refill_tokens h, le_min_iff, and_iff_left room, shortfall, div_le_iff₀ positive]
  constructor
  · intro earned
    linarith
  · intro earned
    linarith

/-- the wait is the least number of whole seconds, one at least, in which the deficit is earned -/
theorem wait_le_iff (b : Bucket ℚ) (cost : ℕ) {k : ℕ} (second : 1 ≤ k) : b.wait cost ≤ k ↔ b.shortfall cost ≤ k := by
  have wait : b.wait cost = max 1 (b.shortfall cost).ceil.toNat := rfl
  rw [wait, max_le_iff, and_iff_right second, Int.toNat_le, Rat.ceil_le_iff]
  norm_cast

/-- the instant some whole seconds after another -/
def secondsAfter (t : ℤ) (k : ℕ) : ℤ :=
  t + k * 1000000000

theorem le_secondsAfter (t : ℤ) (k : ℕ) : t ≤ secondsAfter t k := by
  unfold secondsAfter
  omega

theorem secondsTo_secondsAfter (t : ℤ) (k : ℕ) : secondsTo t (secondsAfter t k) = k := by
  rw [secondsTo_of_le (le_secondsAfter t k), secondsAfter]
  push_cast
  ring

theorem secondsTo_mono {t now now' : ℤ} (le : now ≤ now') : secondsTo t now ≤ secondsTo t now' := by
  have spans : (now - t).toNat ≤ (now' - t).toNat := by omega
  have : ((now - t).toNat : ℚ) ≤ ((now' - t).toNat : ℚ) := by exact_mod_cast spans
  unfold secondsTo
  linarith

/-- what is left of a deficit after some seconds -/
theorem Sound.shortfall_refill (h : b.Sound) (room : (cost : ℚ) ≤ b.capacity) {k : ℕ} (early : (k : ℚ) < b.shortfall cost) :
    (b.refill (secondsAfter b.last k)).shortfall cost = b.shortfall cost - k := by
  have positive : 0 < b.capacity := zero_lt_one.trans_le h.one_le
  have unfilled : b.tokens + k * (b.capacity / 60) ≤ b.capacity := by
    rw [shortfall, lt_div_iff₀ positive] at early
    linarith
  have tokens : (b.refill (secondsAfter b.last k)).tokens = b.tokens + k * (b.capacity / 60) := by
    rw [refill_tokens h, secondsTo_secondsAfter, min_eq_left unfilled]
  rw [shortfall, shortfall, tokens, refill_capacity]
  field_simp
  ring

theorem one_le_wait (b : Bucket ℚ) (cost : ℕ) : 1 ≤ b.wait cost := le_max_left _ _

/-- before the wait is over the deficit is not earned -/
theorem lt_shortfall (h : b.Sound) (short : b.tokens < cost) {k : ℕ} (early : k < b.wait cost) : (k : ℚ) < b.shortfall cost := by
  rcases Nat.eq_zero_or_pos k with rfl | second
  · have positive : 0 < b.capacity := zero_lt_one.trans_le h.one_le
    have deficit : 0 < (cost : ℚ) - b.tokens := sub_pos.2 short
    have : 0 < b.shortfall cost := by
      unfold shortfall
      positivity
    exact_mod_cast this
  · by_contra! earned
    have waited : b.wait cost ≤ k := (b.wait_le_iff cost second).2 earned
    exact absurd early (not_lt.2 waited)

/-- the wait runs down with the seconds -/
theorem Sound.wait_refill (h : b.Sound) (room : (cost : ℚ) ≤ b.capacity) (short : b.tokens < cost) {k : ℕ}
    (early : k < b.wait cost) : (b.refill (secondsAfter b.last k)).wait cost = b.wait cost - k := by
  have left := h.shortfall_refill room (lt_shortfall h short early)
  have one : 1 ≤ b.wait cost - k := Nat.sub_pos_of_lt early
  have same {j : ℕ} (second : 1 ≤ j) :
      (b.refill (secondsAfter b.last k)).wait cost ≤ j ↔ b.wait cost - k ≤ j := by
    have total : 1 ≤ j + k := second.trans (Nat.le_add_right j k)
    rw [wait_le_iff _ _ second, left, Nat.sub_le_iff_le_add, wait_le_iff _ _ total, Nat.cast_add, sub_le_iff_le_add]
  exact le_antisymm ((same one).2 le_rfl) ((same (one_le_wait _ _)).1 le_rfl)

/-! ## Requests -/

/-- after its wait a request is admitted -/
theorem Sound.admits_of_wait (h : b.Sound) (room : (cost : ℚ) ≤ b.capacity) {now : ℤ}
    (waited : secondsAfter b.last (b.wait cost) ≤ now) : ∃ remaining, (b.tryTake cost now).2 = .admitted remaining := by
  have earned : b.shortfall cost ≤ b.wait cost := (b.wait_le_iff cost (one_le_wait b cost)).1 le_rfl
  have time : (b.wait cost : ℚ) ≤ secondsTo b.last now := by
    rw [← secondsTo_secondsAfter b.last (b.wait cost)]
    exact secondsTo_mono waited
  have enough : (cost : ℚ) ≤ (b.refill now).tokens := (h.affords_iff room now).2 (earned.trans time)
  rcases tryTake_cases b cost now with ⟨-, -, admitted⟩ | ⟨less, -⟩
  · exact admitted
  · simp only [Quantity.le_rat, Quantity.ofNat_rat, decide_eq_false_iff_not] at less
    exact absurd enough less

/-- who is throttled lacked something -/
theorem tryTake_short {now : ℤ} (less : (b.refill now).tokens < cost) :
    (b.tryTake cost now).2 = .throttled (b.refill now).remaining ((b.refill now).wait cost) := by
  have short : ¬ (cost : ℚ) ≤ (b.refill now).tokens := not_le.2 less
  simp [tryTake, short]

/-- a whole number of seconds too early a request is throttled, and is told what is left of the wait -/
theorem Sound.throttles_of_early (h : b.Sound) (room : (cost : ℚ) ≤ b.capacity) (short : b.tokens < cost) {k : ℕ}
    (early : k < b.wait cost) :
    ∃ remaining, (b.tryTake cost (secondsAfter b.last k)).2 = .throttled remaining (b.wait cost - k) := by
  have unearned : ¬ (cost : ℚ) ≤ (b.refill (secondsAfter b.last k)).tokens := by
    rw [h.affords_iff room, secondsTo_secondsAfter, not_le]
    exact lt_shortfall h short early
  have answer := tryTake_short (not_le.1 unearned)
  rw [h.wait_refill room short early] at answer
  exact ⟨_, answer⟩

/-- a cost that the bucket has no room for is never admitted -/
theorem Sound.throttles_of_no_room (h : b.Sound) (large : b.capacity < cost) (now : ℤ) (remaining : ℕ) :
    (b.tryTake cost now).2 ≠ .admitted remaining := by
  have full : (b.refill now).tokens ≤ b.capacity := (h.refill now).le_capacity.trans_eq (refill_capacity b now)
  rw [tryTake_short (full.trans_lt large)]
  nofun

end Bucket

namespace Meter

open Bucket

variable {m : Meter ℚ} {id : String} {b : Bucket ℚ}

/-! ## A bucket that is left alone -/

theorem le_latest (id : String) (last : ℤ) (log : List (Use × Answer)) : last ≤ latest id last log := by
  induction log generalizing last with
  | nil => exact le_rfl
  | cons e log ih =>
    rw [latest_cons]
    exact (le_later last _).trans (ih _)

theorem latest_le {last now : ℤ} (begun : last ≤ now) {log : List (Use × Answer)}
    (past : ∀ e ∈ log, ∀ r, reading? id e = some r → r ≤ now) : latest id last log ≤ now := by
  induction log generalizing last with
  | nil => exact begun
  | cons e log ih =>
    rw [latest_cons]
    refine ih ?_ fun e' he => past e' (List.mem_cons_of_mem _ he)
    exact later_le begun (past e List.mem_cons_self)

/-- in a quiet run a bucket fills up to the latest reading, and nothing else happens to it -/
theorem Quiet.bucket (hm : m.Sound) (hb : m.bucket? id = some b) {now : ℤ} {us : List Use}
    (quiet : m.Quiet id b.capacity now us) : (m.run us).bucket? id = some (b.refill (latest id b.last (m.log us))) := by
  induction us generalizing m b with
  | nil =>
    have same : b.refill (latest id b.last []) = b := refill_self b
    rw [log, same]
    exact hb
  | cons u us ih =>
    obtain ⟨c, hc, steady⟩ := quiet.tail.steady 0 (Nat.zero_le _)
    have hc : (m.step u).1.bucket? id = some c := hc
    rcases bucket_step m u id b hb with gone | ⟨c', hc', moved⟩
    · rw [gone] at hc
      cases hc
    obtain rfl : c' = c := Option.some.inj (hc'.symm.trans hc)
    have free : paid id (u, (m.step u).2) = 0 := by
      have free := quiet.free
      rw [log_cons, spent_cons, Nat.add_eq_zero_iff] at free
      exact free.1
    rw [free] at moved
    have filled := moved.refilled (hm id b hb) steady
    have rest := ih (step_sound hm u) hc (steady ▸ quiet.tail)
    have last := moved.last_eq
    have forward := le_latest id (later b.last (reading? id (u, (m.step u).2))) ((m.step u).1.log us)
    rw [run_cons, rest, last, filled, (hm id b hb).refill_refill, max_eq_right forward, log_cons, latest_cons]

/-! ## Who may be charged -/

/-- a tenant whose requests are charged to a bucket, under a budget -/
structure Entitled (m : Meter ℚ) (id : String) (budget : ℕ) (t : Tenant) : Prop where
  own : t.id = id
  live : Limiter.liveBudget m.authority t = some budget

variable {n cost : ℕ} {t : Tenant}

theorem sound_purse (hm : m.Sound) (id : String) (budget : ℕ) (now : ℤ) : (m.limiter.purse id budget now).Sound := by
  unfold Limiter.purse
  cases held : m.limiter.buckets.get? id with
  | none => exact (sound_full budget now).reconfigure budget
  | some b => exact (hm id b held).reconfigure budget

theorem Entitled.answer (entitled : m.Entitled id n t) (cost : ℕ) (now : ℤ) :
    (m.step (.ask t cost now)).2 = .admission ((m.limiter.purse id n now).tryTake cost now).2 := by
  rw [ask_of_budget entitled.live, entitled.own]

/-- a bucket that has the budget already is charged as it is -/
theorem purse_eq (hm : m.Sound) (hb : m.bucket? id = some b) (capacity : b.capacity = capacityOf n) (now : ℤ) :
    m.limiter.purse id n now = b := by
  rw [Limiter.purse, show m.limiter.buckets.get? id = some b from hb]
  exact (hm id b hb).reconfigure_self capacity.symm

/-- the bucket that a throttled request leaves: it lacks a part of the cost, and the request was told how long that takes -/
theorem throttled_bucket {now : ℤ} {remaining wait : ℕ}
    (throttled : (m.step (.ask t cost now)).2 = .admission (.throttled remaining wait)) :
    ∃ (n : ℕ) (b : Bucket ℚ), Limiter.liveBudget (m.step (.ask t cost now)).1.authority t = some n ∧
      (m.step (.ask t cost now)).1.bucket? t.id = some b ∧ b.capacity = capacityOf n ∧ b.tokens < cost ∧
      wait = b.wait cost := by
  cases live : Limiter.liveBudget m.authority t with
  | none =>
    rw [ask_of_no_budget live] at throttled
    cases throttled
  | some n =>
    rw [ask_of_budget live, Answer.admission.injEq] at throttled
    obtain ⟨-, told⟩ := tryTake_throttled throttled
    rcases tryTake_cases (m.limiter.purse t.id n now) cost now with ⟨-, -, r, admitted⟩ | ⟨short, left, -⟩
    · rw [admitted] at throttled
      cases throttled
    · have capacity : ((m.limiter.purse t.id n now).refill now).capacity = capacityOf n := refill_capacity _ now
      have lacks : ((m.limiter.purse t.id n now).refill now).tokens < cost := by simpa using short
      have held : (m.step (.ask t cost now)).1.bucket? t.id = some ((m.limiter.purse t.id n now).refill now) := by
        rw [ask_of_budget live]
        simp [bucket?, Table.get?_insert, left]
      exact ⟨n, _, live, held, capacity, lacks, told⟩

/-! ## The wait -/

/-- **The wait is exact.** Take any reachable limiter, bound to a registry or not, and a request that is throttled and told to
wait `s` seconds. If its tenant's bucket has room for the cost, `s` is one at least, and as long as the bucket is left alone and
the budget stays: a request of the same cost is admitted at every instant that is no earlier than `s` seconds after the bucket's
last refill, and at `k < s` whole seconds after it one is throttled and told to wait `s - k` seconds. If the bucket has no room
for the cost, no request of this cost is admitted under this budget, whatever happens first and however late it comes. -/
theorem wait_exact (registry : Option Registry) (before : List Use) (t : Tenant) (cost : ℕ) (now : ℤ) (remaining s : ℕ)
    (throttled : (((start registry : Meter ℚ).run before).step (.ask t cost now)).2 =
      .admission (.throttled remaining s)) :
    let m : Meter ℚ := (((start registry : Meter ℚ).run before).step (.ask t cost now)).1
    ∃ (n : ℕ) (b : Bucket ℚ), Limiter.liveBudget m.authority t = some n ∧ m.bucket? t.id = some b ∧
      b.capacity = capacityOf n ∧
      ((cost : ℚ) ≤ b.capacity →
        1 ≤ s ∧
        (∀ us latest, m.Quiet t.id b.capacity latest us → ∀ t', (m.run us).Entitled t.id n t' →
          ∀ later, secondsAfter b.last s ≤ later →
            ∃ left, ((m.run us).step (.ask t' cost later)).2 = .admission (.admitted left)) ∧
        ∀ k < s, ∀ us, m.Quiet t.id b.capacity (secondsAfter b.last k) us → ∀ t', (m.run us).Entitled t.id n t' →
          ∃ left, ((m.run us).step (.ask t' cost (secondsAfter b.last k))).2 = .admission (.throttled left (s - k))) ∧
      (b.capacity < cost → ∀ us t', (m.run us).Entitled t.id n t' → ∀ later left,
        ((m.run us).step (.ask t' cost later)).2 ≠ .admission (.admitted left)) := by
  intro m
  have sound : ((start registry : Meter ℚ).run before).Sound := run_sound (sound_start registry) before
  have after : m.Sound := step_sound sound (.ask t cost now)
  obtain ⟨n, b, live, held, capacity, short, rfl⟩ := throttled_bucket throttled
  have hb : b.Sound := after t.id b held
  -- what a request is answered after a quiet run: the bucket has been filled up to some instant
  have asked {us : List Use} {latest : ℤ} (quiet : m.Quiet t.id b.capacity latest us) {t' : Tenant}
      (entitled : (m.run us).Entitled t.id n t') (later : ℤ) :
      ∃ up, (b.last ≤ latest → up ≤ latest) ∧
        ((m.run us).step (.ask t' cost later)).2 = .admission (b.tryTake cost (max up later)).2 := by
    refine ⟨_, fun begun => latest_le begun quiet.past, ?_⟩
    have filled := quiet.bucket after held
    rw [entitled.answer, purse_eq (run_sound after us) filled ((refill_capacity b _).trans capacity), hb.tryTake_refill]
  refine ⟨n, b, live, held, capacity, ?_, ?_⟩
  · intro room
    refine ⟨one_le_wait b cost, ?_, ?_⟩
    · intro us latest quiet t' entitled later waited
      obtain ⟨up, -, answer⟩ := asked quiet entitled later
      obtain ⟨left, admitted⟩ := hb.admits_of_wait room (waited.trans (le_max_right up later))
      exact ⟨left, answer.trans (congrArg Answer.admission admitted)⟩
    · intro k early us quiet t' entitled
      obtain ⟨up, past, answer⟩ := asked quiet entitled (secondsAfter b.last k)
      have begun : b.last ≤ secondsAfter b.last k := le_secondsAfter b.last k
      rw [max_eq_right (past begun)] at answer
      obtain ⟨left, refused⟩ := hb.throttles_of_early room short early
      exact ⟨left, answer.trans (congrArg Answer.admission refused)⟩
  · intro large us t' entitled later left admitted
    have purse : ((m.run us).limiter.purse t.id n later).Sound := sound_purse (run_sound after us) t.id n later
    have room : ((m.run us).limiter.purse t.id n later).capacity = b.capacity := capacity.symm
    rw [entitled.answer, Answer.admission.injEq] at admitted
    exact purse.throttles_of_no_room (room ▸ large) later left admitted

/-- five of seven tokens are taken, and all seven are asked for a second later -/
def hasty : List Use :=
  [.ask (payer 7) 5 0]

/-- the balance is looked at, the seven are asked for again, and other tenants come and go -/
def impatience : List Use :=
  [.peek "t" 2500000000, .ask (payer 7) 7 41999999999, .ask { payer 3 with id := "other" } 3 43000000000]

/-- **Forty-two seconds.** The bucket lacks seven tokens but two and seven sixtieths, which takes a little less than forty-two
seconds. Forty-one seconds later the request is throttled and told to wait one more, and then it is admitted. -/
theorem wait_exact_seven :
    let m : Meter ℚ := (start none).run hasty
    let refused : Meter ℚ := (m.step (.ask (payer 7) 7 1000000000)).1
    (m.step (.ask (payer 7) 7 1000000000)).2 = .admission (.throttled 2 42) ∧
    refused.Quiet "t" 7 (secondsAfter 1000000000 41) impatience ∧
    (refused.run impatience).Entitled "t" 7 (payer 7) ∧
    (∃ left, ((refused.run impatience).step (.ask (payer 7) 7 42000000000)).2 = .admission (.throttled left 1)) ∧
    ∃ left, ((refused.run impatience).step (.ask (payer 7) 7 43000000000)).2 = .admission (.admitted left) := by
  intro m refused
  have throttled : (m.step (.ask (payer 7) 7 1000000000)).2 = .admission (.throttled 2 42) := by decide +kernel
  have capacities : ∀ k ≤ impatience.length,
      ((refused.run (impatience.take k)).bucket? "t").map Bucket.capacity = some 7 := by
    decide +kernel
  have quiet : refused.Quiet "t" 7 (secondsAfter 1000000000 41) impatience :=
    ⟨fun k hk => Option.map_eq_some_iff.1 (capacities k hk), by decide +kernel, by decide +kernel⟩
  have entitled : (refused.run impatience).Entitled "t" 7 (payer 7) := ⟨rfl, by decide +kernel⟩
  have budget : Limiter.liveBudget refused.authority (payer 7) = some 7 := by decide +kernel
  obtain ⟨n, b, live, held, -, room, -⟩ := wait_exact none hasty (payer 7) 7 1000000000 2 42 throttled
  obtain rfl : n = 7 := Option.some.inj (live.symm.trans budget)
  have filled : refused.bucket? "t" = some ⟨7, 2 + 7 / 60, 1000000000⟩ := by decide +kernel
  obtain rfl : b = ⟨7, 2 + 7 / 60, 1000000000⟩ := Option.some.inj (held.symm.trans filled)
  obtain ⟨-, enough, early⟩ := room (by decide +kernel)
  have soon : secondsAfter 1000000000 41 = 42000000000 := by decide
  have late : secondsAfter 1000000000 42 ≤ 43000000000 := by decide
  have refusal := early 41 (by decide) impatience quiet (payer 7) entitled
  rw [soon] at refusal
  exact ⟨throttled, quiet, entitled, refusal, enough impatience _ quiet (payer 7) entitled _ late⟩

end Meter

end TenantGateway
