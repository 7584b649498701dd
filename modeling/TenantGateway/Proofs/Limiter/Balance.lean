/-
The balance that a tenant is told predicts what the limiter decides.

On numbers with the laws of `Quantity.Exact`, doubles among them, every bucket of a reachable limiter holds a level between nothing
and a whole capacity (`Bucket.Sized`, `run_words`), so what it tells in whole tokens decides which costs it holds
(`Sized.tryTake_of_le`, `Sized.tryTake_of_lt`).
- `balance_predicts`: a request is admitted exactly when its cost is within the balance that a look tells at that instant, it leaves
  what the subtraction of whole numbers leaves, and a look right after tells the same as the answer.
-/
import TenantGateway.Proofs.Limiter.Exact
import TenantGateway.Proofs.Limiter.Isolation
import TenantGateway.Proofs.Limiter.Spending
import TenantGateway.Proofs.Registry.Accepted

namespace TenantGateway

open Quantity (Within)

variable {α : Type} [Quantity α]

namespace Bucket

/-! ## Buckets of a whole capacity -/

/-- a bucket of a whole capacity of 32 bits, with a level between nothing and that -/
structure Sized (b : Bucket α) (n : ℕ) : Prop where
  word : n < 2 ^ 32
  capacity : b.capacity = Quantity.ofNat n
  level : Within n b.tokens

variable {b : Bucket α} {n k cost : ℕ} {now : ℤ}

theorem max_one_lt (word : n < 2 ^ 32) : max n 1 < 2 ^ 32 := max_lt word (by norm_num)

/-- a budget that the bucket has already changes nothing -/
theorem Sized.reconfigure_self (h : b.Sized k) (same : b.capacity = capacityOf n) : b.reconfigure n = b := by
  have full : Quantity.le b.tokens (capacityOf n) = true := by
    rw [← same, h.capacity]
    exact h.level.capped
  have kept : Quantity.min b.tokens (capacityOf n) = b.tokens := if_pos full
  rw [Bucket.reconfigure, kept, ← same]

variable [Quantity.Exact α]

theorem sized_full (word : n < 2 ^ 32) (now : ℤ) : (full n now : Bucket α).Sized (max n 1) :=
  ⟨max_one_lt word, rfl, Quantity.Exact.within_ofNat (max_one_lt word)⟩

theorem Sized.reconfigure (h : b.Sized k) (word : n < 2 ^ 32) : (b.reconfigure n).Sized (max n 1) :=
  ⟨max_one_lt word, rfl, Quantity.Exact.within_min (max_one_lt word) h.level⟩

theorem Sized.refill (h : b.Sized n) (now : ℤ) : (b.refill now).Sized n := by
  unfold Bucket.refill
  split_ifs
  · exact h
  · refine ⟨h.word, h.capacity, ?_⟩
    rw [h.capacity]
    exact Quantity.Exact.within_earned h.word h.level _

/-- a cost within the whole tokens of the bucket is taken from them -/
theorem Sized.tryTake_of_le (h : b.Sized n) (word : cost < 2 ^ 32) (enough : cost ≤ (b.refill now).remaining) :
    (b.tryTake cost now).2 = .admitted ((b.refill now).remaining - cost) ∧
      (b.tryTake cost now).1.remaining = (b.refill now).remaining - cost ∧ (b.tryTake cost now).1.Sized n := by
  have filled := h.refill now
  have holds : Quantity.le (Quantity.ofNat cost) (b.refill now).tokens = true :=
    (Quantity.Exact.le_iff h.word word filled.level).2 enough
  have taken : (b.tryTake cost now) =
      ({ b.refill now with tokens := Quantity.sub (b.refill now).tokens (Quantity.ofNat cost) },
        .admitted (Quantity.floor (Quantity.sub (b.refill now).tokens (Quantity.ofNat cost)))) := if_pos holds
  have left : Quantity.floor (Quantity.sub (b.refill now).tokens (Quantity.ofNat cost)) = (b.refill now).remaining - cost :=
    Quantity.Exact.floor_sub h.word word filled.level holds
  rw [taken]
  exact ⟨congrArg Admission.admitted left, left, h.word, filled.capacity,
    Quantity.Exact.within_sub h.word word filled.level holds⟩

/-- a larger cost leaves the bucket as it is -/
theorem Sized.tryTake_of_lt (h : b.Sized n) (word : cost < 2 ^ 32) (short : (b.refill now).remaining < cost) :
    (b.tryTake cost now).2 = .throttled (b.refill now).remaining ((b.refill now).wait cost) ∧
      (b.tryTake cost now).1 = b.refill now := by
  have filled := h.refill now
  have lacks : ¬ Quantity.le (Quantity.ofNat cost) (b.refill now).tokens = true := by
    rw [Quantity.Exact.le_iff h.word word filled.level]
    exact not_le.2 short
  have kept : b.tryTake cost now =
      (b.refill now, .throttled (b.refill now).remaining ((b.refill now).wait cost)) := if_neg lacks
  rw [kept]
  exact ⟨rfl, rfl⟩

theorem Sized.tryTake (h : b.Sized n) (word : cost < 2 ^ 32) (now : ℤ) : (b.tryTake cost now).1.Sized n := by
  rcases le_or_gt cost (b.refill now).remaining with enough | short
  · exact (h.tryTake_of_le word enough).2.2
  · rw [(h.tryTake_of_lt word short).2]
    exact h.refill now

end Bucket

/-! ## Budgets of 32 bits -/

/-- all budgets of a snapshot are numbers of 32 bits -/
def Snapshot.Words (s : Snapshot) : Prop := ∀ t ∈ s.tenants, t.tokensPerMinute < 2 ^ 32

theorem Snapshot.Words.budget {s : Snapshot} (words : s.Words) {id : String} {n : ℕ} (budget : s.budget? id = some n) :
    n < 2 ^ 32 := by
  obtain ⟨t, found, rfl⟩ := Option.map_eq_some_iff.1 budget
  exact words t (List.mem_of_find?_eq_some (Option.filter_eq_some_iff.1 found).1)

namespace Meter

open Bucket

/-- the budgets and the cost that a use brings are numbers of 32 bits -/
def Use.Words : Use → Prop
  | .ask t cost _ => t.tokensPerMinute < 2 ^ 32 ∧ cost < 2 ^ 32
  | .peek _ _ => True
  | .sync s => s.Words
  | .reload tenants => ∀ t ∈ tenants, t.tokensPerMinute < 2 ^ 32

/-- a meter that has seen such numbers alone -/
structure Words (m : Meter α) : Prop where
  registry : ∀ r, m.registry = some r → r.current.Words
  sized : ∀ id b, m.bucket? id = some b → ∃ n, b.Sized n

variable {m : Meter α} {t : Tenant} {n cost : ℕ} {now : ℤ}

theorem words_start {registry : Option Registry} (words : ∀ r, registry = some r → r.current.Words) :
    (start registry : Meter α).Words :=
  ⟨words, fun _ _ held => by cases held⟩

theorem Words.liveBudget (h : m.Words) (word : t.tokensPerMinute < 2 ^ 32)
    (live : Limiter.liveBudget m.authority t = some n) : n < 2 ^ 32 := by
  unfold Limiter.liveBudget authority at live
  cases bound : m.registry with
  | none =>
    rw [bound] at live
    exact Option.some.inj live ▸ word
  | some r =>
    rw [bound] at live
    exact (h.registry r bound).budget live

variable [Quantity.Exact α]

theorem Words.purse (h : m.Words) (word : n < 2 ^ 32) (id : String) (now : ℤ) : (m.limiter.purse id n now).Sized (max n 1) := by
  unfold Limiter.purse
  cases held : m.limiter.buckets.get? id with
  | none => exact (sized_full word now).reconfigure word
  | some b =>
    obtain ⟨k, sized⟩ := h.sized id b held
    exact sized.reconfigure word

theorem step_words (h : m.Words) {u : Use} (words : u.Words) : (m.step u).1.Words := by
  cases u with
  | ask t cost now =>
    refine ⟨h.registry, fun id b held => ?_⟩
    rw [bucket?_ask] at held
    split_ifs at held
    · cases live : Limiter.liveBudget m.authority t with
      | none =>
        rw [live] at held
        exact h.sized id b held
      | some n =>
        rw [live] at held
        obtain rfl := Option.some.inj held
        exact ⟨_, (h.purse (h.liveBudget words.1 live) t.id now).tryTake words.2 now⟩
    · exact h.sized id b held
  | peek j now =>
    refine ⟨h.registry, fun id b held => ?_⟩
    rw [bucket?_peek] at held
    split_ifs at held
    · obtain ⟨b', held', rfl⟩ := Option.map_eq_some_iff.1 held
      obtain ⟨n, sized⟩ := h.sized id b' held'
      exact ⟨n, sized.refill now⟩
    · exact h.sized id b held
  | sync s =>
    refine ⟨h.registry, fun id b held => ?_⟩
    rw [bucket?_sync] at held
    obtain ⟨b', held', kept⟩ := Option.bind_eq_some_iff.1 held
    obtain ⟨n, budget, rfl⟩ := Option.map_eq_some_iff.1 kept
    obtain ⟨k, sized⟩ := h.sized id b' held'
    exact ⟨_, sized.reconfigure (Snapshot.Words.budget words budget)⟩
  | reload tenants =>
    refine ⟨fun r' bound => ?_, fun id b held => ?_⟩
    · unfold step at bound
      cases before : m.registry with
      | none =>
        rw [before] at bound
        exact h.registry r' (bound ▸ rfl)
      | some r =>
        rw [before] at bound
        dsimp only at bound
        cases reloaded : r.reload tenants with
        | error e =>
          rw [reloaded] at bound
          exact h.registry r' bound
        | ok next =>
          rw [reloaded] at bound
          obtain rfl := Option.some.inj bound
          obtain ⟨-, rfl⟩ := Registry.reload_eq_ok_iff.1 reloaded
          intro t member
          obtain ⟨c, listed, rfl⟩ := List.mem_map.1 member
          exact words c listed
    · rw [bucket?, reload_limiter] at held
      exact h.sized id b held

theorem run_words (h : m.Words) {us : List Use} (words : ∀ u ∈ us, u.Words) : (m.run us).Words := by
  induction us generalizing m with
  | nil => exact h
  | cons u us ih =>
    rw [run_cons]
    exact ih (step_words h (words u List.mem_cons_self)) fun v hv => words v (List.mem_cons_of_mem u hv)

/-! ## The balance -/

/-- what a look at a tenant's balance tells, or would tell if the tenant had a bucket -/
def balance (m : Meter α) (id : String) (budget : ℕ) (now : ℤ) : ℕ :=
  (m.limiter.peek id now).2.getD (max 1 budget)

/-- the balance is what the bucket on which a request is decided holds, in whole tokens -/
theorem Words.balance_eq (h : m.Words) (word : n < 2 ^ 32) {id : String}
    (matched : ∀ b, m.bucket? id = some b → b.capacity = capacityOf n) (now : ℤ) :
    m.balance id n now = ((m.limiter.purse id n now).refill now).remaining := by
  unfold balance Limiter.purse
  rw [Limiter.peek_answer]
  cases held : m.limiter.buckets.get? id with
  | none =>
    have full : (Bucket.full n now : Bucket α).reconfigure n = .full n now := (sized_full word now).reconfigure_self rfl
    have settled : (Bucket.full n now : Bucket α).refill now = .full n now := if_pos le_rfl
    have whole : (Bucket.full n now : Bucket α).remaining = max n 1 := Quantity.Exact.floor_ofNat (max_one_lt word)
    simp only [Option.map_none, Option.getD_none, full, settled, whole]
    exact max_comm 1 n
  | some b =>
    obtain ⟨k, sized⟩ := h.sized id b held
    have kept : b.reconfigure n = b := sized.reconfigure_self (matched b held)
    simp only [Option.map_some, Option.getD_some, kept]

omit [Quantity.Exact α] in
/-- a look tells the whole tokens that the bucket comes to -/
theorem look_eq {id : String} {b : Bucket α} (held : m.bucket? id = some b) (reading : ℤ) :
    (m.step (.peek id reading)).2 = .balance (some (b.refill reading).remaining) := by
  simp only [step, Limiter.peek, show m.limiter.buckets.get? id = some b from held]

/-- **The balance predicts admission.** Let budgets and costs be numbers of 32 bits, and take any reachable limiter, bound to a
registry or not, a tenant with a live budget that is the capacity of its bucket, if it has one, and a clock reading. Let `r` be
the balance that a look tells then, or the budget, one at least, if there is no bucket. A request is admitted if its cost is
within `r`, and `r` less its cost is left; otherwise it is throttled and `r` is left. A look right after, at the same reading or an
earlier one, tells what was left. -/
theorem balance_predicts (registry : Option Registry) (bound : ∀ r, registry = some r → r.current.Words)
    (before : List Use) (words : ∀ u ∈ before, u.Words) (t : Tenant) (word : t.tokensPerMinute < 2 ^ 32) (n : ℕ)
    (live : Limiter.liveBudget ((start registry : Meter α).run before).authority t = some n)
    (matched : ∀ b, ((start registry : Meter α).run before).bucket? t.id = some b → b.capacity = capacityOf n)
    (cost : ℕ) (small : cost < 2 ^ 32) (now : ℤ) :
    let m : Meter α := (start registry).run before
    let r := m.balance t.id n now
    ∃ a : Admission, (m.step (.ask t cost now)).2 = .admission a ∧
      (cost ≤ r → a = .admitted (r - cost)) ∧
      (r < cost → ∃ wait, a = .throttled r wait) ∧
      ∀ reading ≤ now, ((m.step (.ask t cost now)).1.step (.peek t.id reading)).2 = .balance (some a.remaining) := by
  intro m r
  have reached : m.Words := run_words (words_start bound) words
  have budget : n < 2 ^ 32 := reached.liveBudget word live
  have purse := reached.purse budget t.id now
  have told : r = ((m.limiter.purse t.id n now).refill now).remaining := reached.balance_eq budget matched now
  have asked : (m.step (.ask t cost now)).2 = .admission ((m.limiter.purse t.id n now).tryTake cost now).2 := by
    rw [ask_of_budget live]
  -- the bucket has taken in the reading, so a look that is no later finds it as it is
  have look (reading : ℤ) (past : reading ≤ now) : ((m.step (.ask t cost now)).1.step (.peek t.id reading)).2 =
      .balance (some ((m.limiter.purse t.id n now).tryTake cost now).1.remaining) := by
    have settled : reading ≤ ((m.limiter.purse t.id n now).tryTake cost now).1.last := by
      rw [tryTake_last]
      exact past.trans (le_max_right _ _)
    have held : (m.step (.ask t cost now)).1.bucket? t.id = some ((m.limiter.purse t.id n now).tryTake cost now).1 := by
      rw [bucket?_ask, if_pos rfl, live]
    have same : ((m.limiter.purse t.id n now).tryTake cost now).1.refill reading = _ := if_pos settled
    rw [look_eq held, same]
  refine ⟨_, asked, ?_, ?_, ?_⟩
  · intro enough
    rw [told] at enough ⊢
    exact (purse.tryTake_of_le small enough).1
  · intro short
    rw [told] at short ⊢
    exact ⟨_, (purse.tryTake_of_lt small short).1⟩
  · intro reading past
    rw [look reading past]
    rcases le_or_gt cost ((m.limiter.purse t.id n now).refill now).remaining with enough | short
    · obtain ⟨answer, left, -⟩ := purse.tryTake_of_le small enough
      rw [answer, left]
      rfl
    · obtain ⟨answer, left⟩ := purse.tryTake_of_lt small short
      rw [answer, left]
      rfl

/-- the largest budget of 32 bits, of which all but one token are spent -/
def nearlySpent : List Use :=
  [.ask (payer 4294967295) 4294967294 0]

/-- **A fraction is left.** After a millisecond a bucket of doubles has earned a fraction beside its whole tokens. A request for
all of these is admitted, one for one token more is not, and a look at an earlier instant tells what either left. -/
theorem balance_predicts_fraction :
    let m : Meter Float := (start none).run nearlySpent
    m.balance "t" 4294967295 1000000 = 71583 ∧
    (m.step (.ask (payer 4294967295) 71583 1000000)).2 = .admission (.admitted 0) ∧
    ((m.step (.ask (payer 4294967295) 71583 1000000)).1.step (.peek "t" 5)).2 = .balance (some 0) ∧
    (∃ wait, (m.step (.ask (payer 4294967295) 71584 1000000)).2 = .admission (.throttled 71583 wait)) ∧
    ((m.step (.ask (payer 4294967295) 71584 1000000)).1.step (.peek "t" 5)).2 = .balance (some 71583) := by
  intro m
  have words : ∀ u ∈ nearlySpent, u.Words := by
    intro u member
    rw [List.mem_singleton.1 member]
    exact ⟨by norm_num [payer], by norm_num⟩
  have live : Limiter.liveBudget m.authority (payer 4294967295) = some 4294967295 := rfl
  have capacity : (m.bucket? "t").map Bucket.capacity = some (capacityOf 4294967295) := by decide +kernel
  have matched : ∀ b, m.bucket? "t" = some b → b.capacity = capacityOf 4294967295 := by
    intro b held
    rw [held] at capacity
    exact Option.some.inj capacity
  have told : m.balance "t" 4294967295 1000000 = 71583 := by decide +kernel
  have predicted := balance_predicts none nofun nearlySpent words (payer 4294967295) (by norm_num [payer]) 4294967295 live matched
  obtain ⟨a, answer, within, -, look⟩ := predicted 71583 (by norm_num) 1000000
  obtain ⟨a', answer', -, beyond, look'⟩ := predicted 71584 (by norm_num) 1000000
  rw [show m.balance (payer 4294967295).id 4294967295 1000000 = 71583 from told] at within beyond
  obtain rfl := within le_rfl
  obtain ⟨wait, rfl⟩ := beyond (by norm_num)
  exact ⟨told, answer, look 5 (by norm_num), ⟨wait, answer'⟩, look' 5 (by norm_num)⟩

end Meter

end TenantGateway
