/-
A limiter in use: any sequence of admissions, looks at balances, syncs and reloads of the registry it is bound to.

`Meter.step` is one use and `Meter.run` a sequence of them; `Meter.log` keeps what each was answered. Of a tenant's bucket:
- `bucket_step`: one use takes it away, or does to it what `Bucket.Moved` allows, with the reading and the charge of its log entry;
- `bucket_created`: a bucket that was not there before is a full one, moved once;
- `run_sound`: on rationals every bucket of every reachable limiter is sound.
-/
import Mathlib.Tactic
import TenantGateway.Limiter.Basic
import TenantGateway.Proofs.Limiter.Bucket

namespace TenantGateway

/-! ## Buckets after each operation of the limiter -/

namespace Limiter

variable {α : Type} [Quantity α]

/-- the bucket that a charge works on: the tenant's own with the budget of now, or a full one -/
def purse (l : Limiter α) (id : String) (budget : ℕ) (now : ℤ) : Bucket α :=
  ((l.buckets.get? id).getD (.full budget now)).reconfigure budget

theorem charge_of_budget {authority : Option Snapshot} {t : Tenant} {n : ℕ} (h : liveBudget authority t = some n)
    (l : Limiter α) (cost : ℕ) (now : ℤ) :
    l.charge authority t cost now =
      (⟨l.buckets.insert t.id ((l.purse t.id n now).tryTake cost now).1⟩, ((l.purse t.id n now).tryTake cost now).2) := by
  unfold charge
  rw [h]
  rfl

theorem charge_of_no_budget {authority : Option Snapshot} {t : Tenant} (h : liveBudget authority t = none)
    (l : Limiter α) (cost : ℕ) (now : ℤ) : l.charge authority t cost now = (l, .revoked) := by
  unfold charge
  rw [h]

theorem get?_peek (l : Limiter α) (id : String) (now : ℤ) (j : String) :
    (l.peek id now).1.buckets.get? j =
      if j = id then (l.buckets.get? j).map (·.refill now) else l.buckets.get? j := by
  unfold peek
  cases h : l.buckets.get? id with
  | none =>
    by_cases hj : j = id
    · simp [hj, h]
    · simp [hj]
  | some b =>
    by_cases hj : j = id
    · simp [hj, h, Table.get?_insert]
    · simp [hj, Table.get?_insert]

theorem get?_sync (l : Limiter α) (s : Snapshot) (id : String) :
    (l.sync s).buckets.get? id =
      (l.buckets.get? id).bind fun bucket => (s.budget? id).map bucket.reconfigure := by
  unfold sync
  rw [Table.get?_filterMap]

end Limiter

/-! ## The machine -/

/-- a limiter and, if it is bound to one, the registry that it takes budgets from -/
structure Meter (α : Type) where
  limiter : Limiter α
  registry : Option Registry

namespace Meter

/-- one use of a limiter, or a reload of its registry -/
inductive Use where
  | ask (tenant : Tenant) (cost : ℕ) (now : ℤ)
  | peek (id : String) (now : ℤ)
  | sync (snapshot : Snapshot)
  | reload (tenants : List TenantConfig)

/-- what a use is answered -/
inductive Answer where
  | admission (answer : Admission)
  | balance (remaining : Option ℕ)
  | done
  | refused (error : GatewayError)
  deriving DecidableEq

variable {α : Type}

/-- a limiter nobody has used yet -/
def start (registry : Option Registry) : Meter α := ⟨.empty, registry⟩

/-- the snapshot that budgets are taken from -/
def authority (m : Meter α) : Option Snapshot := m.registry.map (·.current)

def bucket? (m : Meter α) (id : String) : Option (Bucket α) := m.limiter.buckets.get? id

variable [Quantity α]

def step (m : Meter α) : Use → Meter α × Answer
  | .ask t cost now =>
    let (limiter, answer) := m.limiter.charge m.authority t cost now
    ({ m with limiter }, .admission answer)
  | .peek id now =>
    let (limiter, remaining) := m.limiter.peek id now
    ({ m with limiter }, .balance remaining)
  | .sync s => ({ m with limiter := m.limiter.sync s }, .done)
  | .reload tenants =>
    match m.registry with
    | none => (m, .done)
    | some r =>
      match r.reload tenants with
      | .ok r => ({ m with registry := some r }, .done)
      | .error e => (m, .refused e)

def run (m : Meter α) (us : List Use) : Meter α :=
  us.foldl (fun m u => (m.step u).1) m

/-- the uses of a run, each with its answer -/
def log (m : Meter α) : List Use → List (Use × Answer)
  | [] => []
  | u :: us => (u, (m.step u).2) :: (m.step u).1.log us

theorem run_cons (m : Meter α) (u : Use) (us : List Use) : m.run (u :: us) = (m.step u).1.run us := rfl

theorem log_cons (m : Meter α) (u : Use) (us : List Use) :
    m.log (u :: us) = (u, (m.step u).2) :: (m.step u).1.log us := rfl

/-! ## What a log says of one tenant -/

/-- the clock reading that an entry brought to a tenant's bucket; a revoked request does not come so far -/
def reading? (id : String) : Use × Answer → Option ℤ
  | (.ask t _ now, .admission answer) => if t.id = id ∧ answer ≠ .revoked then some now else none
  | (.peek j now, _) => if j = id then some now else none
  | _ => none

/-- the tokens that an entry took from a tenant -/
def paid (id : String) : Use × Answer → ℕ
  | (.ask t cost _, .admission answer) => if t.id = id then answer.charged cost else 0
  | _ => 0

/-- what a tenant's admitted requests cost altogether -/
def spent (id : String) (log : List (Use × Answer)) : ℕ :=
  (log.map (paid id)).sum

/-- the latest of an instant and the readings that came to a tenant's bucket -/
def latest (id : String) (last : ℤ) (log : List (Use × Answer)) : ℤ :=
  (log.filterMap (reading? id)).foldl max last

theorem spent_cons (id : String) (e : Use × Answer) (log : List (Use × Answer)) :
    spent id (e :: log) = paid id e + spent id log := by
  simp [spent]

theorem latest_cons (id : String) (last : ℤ) (e : Use × Answer) (log : List (Use × Answer)) :
    latest id last (e :: log) = latest id (Bucket.later last (reading? id e)) log := by
  unfold latest Bucket.later
  cases h : reading? id e <;> simp [h]

/-! ## One use and one bucket -/

theorem ask_of_budget {m : Meter α} {t : Tenant} {n : ℕ} (h : Limiter.liveBudget m.authority t = some n)
    (cost : ℕ) (now : ℤ) :
    m.step (.ask t cost now) =
      ({ m with limiter := ⟨m.limiter.buckets.insert t.id ((m.limiter.purse t.id n now).tryTake cost now).1⟩ },
        .admission ((m.limiter.purse t.id n now).tryTake cost now).2) := by
  simp only [step, Limiter.charge_of_budget h]

theorem ask_of_no_budget {m : Meter α} {t : Tenant} (h : Limiter.liveBudget m.authority t = none)
    (cost : ℕ) (now : ℤ) : m.step (.ask t cost now) = (m, .admission .revoked) := by
  simp only [step, Limiter.charge_of_no_budget h]

theorem reload_limiter (m : Meter α) (tenants : List TenantConfig) :
    (m.step (.reload tenants)).1.limiter = m.limiter := by
  unfold step
  cases m.registry with
  | none => rfl
  | some r =>
    dsimp only
    cases r.reload tenants <;> rfl

/-- **One use of a bucket.** It is taken away, or it moves by the reading and the charge of the log entry. -/
theorem bucket_step (m : Meter α) (u : Use) (id : String) (b : Bucket α) (hb : m.bucket? id = some b) :
    (m.step u).1.bucket? id = none ∨
      ∃ b', (m.step u).1.bucket? id = some b' ∧ b.Moved b' (reading? id (u, (m.step u).2)) (paid id (u, (m.step u).2)) := by
  cases u with
  | ask t cost now =>
    right
    cases hn : Limiter.liveBudget m.authority t with
    | none =>
      rw [ask_of_no_budget hn]
      refine ⟨b, hb, ?_⟩
      simpa [reading?, paid, Admission.charged] using Bucket.Moved.still
    | some n =>
      rw [ask_of_budget hn]
      by_cases ht : t.id = id
      · have purse : m.limiter.purse t.id n now = b.reconfigure n := by
          rw [ht, Limiter.purse, show m.limiter.buckets.get? id = some b from hb]
          rfl
        refine ⟨((b.reconfigure n).tryTake cost now).1, ?_, ?_⟩
        · simp [bucket?, Table.get?_insert, ht, ← purse]
        · have := Bucket.Moved.asked (b := b) n cost now
          simpa [reading?, paid, ht, ← purse, Bucket.tryTake_ne_revoked] using this
      · refine ⟨b, ?_, ?_⟩
        · have : ¬ id = t.id := fun h => ht h.symm
          simpa [bucket?, Table.get?_insert, this] using hb
        · simpa [reading?, paid, ht] using Bucket.Moved.still
  | peek j now =>
    right
    have view := Limiter.get?_peek m.limiter j now id
    by_cases hj : j = id
    · refine ⟨b.refill now, ?_, ?_⟩
      · rw [if_pos hj.symm, show m.limiter.buckets.get? id = some b from hb] at view
        exact view
      · simpa [reading?, paid, step, hj] using Bucket.Moved.filled now
    · refine ⟨b, ?_, ?_⟩
      · rw [if_neg (fun h => hj h.symm)] at view
        exact view.trans hb
      · simpa [reading?, paid, step, hj] using Bucket.Moved.still
  | sync s =>
    have view := Limiter.get?_sync m.limiter s id
    rw [show m.limiter.buckets.get? id = some b from hb, Option.bind_some] at view
    cases hn : s.budget? id with
    | none =>
      left
      rw [hn] at view
      exact view
    | some n =>
      right
      rw [hn] at view
      exact ⟨b.reconfigure n, view, Bucket.Moved.rebudgeted n⟩
  | reload tenants =>
    right
    refine ⟨b, ?_, ?_⟩
    · simpa [bucket?, reload_limiter] using hb
    · exact Bucket.Moved.still

/-- a bucket that was not there before was made full, and moved once -/
theorem bucket_created (m : Meter α) (u : Use) (id : String) (b' : Bucket α) (hb : m.bucket? id = none)
    (hb' : (m.step u).1.bucket? id = some b') :
    ∃ (n : ℕ) (now : ℤ) (spent : ℕ), (Bucket.full n now).Moved b' (some now) spent := by
  cases u with
  | ask t cost now =>
    cases hn : Limiter.liveBudget m.authority t with
    | none =>
      rw [ask_of_no_budget hn, hb] at hb'
      cases hb'
    | some n =>
      rw [ask_of_budget hn] at hb'
      by_cases ht : id = t.id
      · have purse : m.limiter.purse t.id n now = (Bucket.full n now).reconfigure n := by
          rw [← ht, Limiter.purse, show m.limiter.buckets.get? id = none from hb]
          rfl
        have made : b' = (((Bucket.full n now).reconfigure n).tryTake cost now).1 := by
          simpa [bucket?, Table.get?_insert, ht, purse] using hb'.symm
        exact ⟨n, now, _, made ▸ Bucket.Moved.asked n cost now⟩
      · have : m.bucket? id = some b' := by simpa [bucket?, Table.get?_insert, ht] using hb'
        rw [hb] at this
        cases this
  | peek j now =>
    have view := Limiter.get?_peek m.limiter j now id
    rw [show m.limiter.buckets.get? id = none from hb, Option.map_none, ite_self] at view
    rw [show (m.step (.peek j now)).1.bucket? id = none from view] at hb'
    cases hb'
  | sync s =>
    have view := Limiter.get?_sync m.limiter s id
    rw [show m.limiter.buckets.get? id = none from hb, Option.bind_none] at view
    rw [show (m.step (.sync s)).1.bucket? id = none from view] at hb'
    cases hb'
  | reload tenants =>
    have : m.bucket? id = some b' := by simpa [bucket?, reload_limiter] using hb'
    rw [hb] at this
    cases this

/-! ## Soundness of all buckets on rationals -/

/-- every bucket is sound -/
def Sound (m : Meter ℚ) : Prop := ∀ id b, m.bucket? id = some b → b.Sound

theorem sound_start (registry : Option Registry) : (start registry : Meter ℚ).Sound := by
  intro id b hb
  simp [bucket?, start, Limiter.empty] at hb

theorem step_sound {m : Meter ℚ} (h : m.Sound) (u : Use) : (m.step u).1.Sound := by
  intro id b' hb'
  cases hb : m.bucket? id with
  | none =>
    obtain ⟨n, now, spent, moved⟩ := bucket_created m u id b' hb hb'
    exact moved.sound (Bucket.sound_full n now)
  | some b =>
    rcases bucket_step m u id b hb with gone | ⟨c, hc, moved⟩
    · rw [gone] at hb'
      cases hb'
    · rw [hc] at hb'
      cases hb'
      exact moved.sound (h id b hb)

theorem run_sound {m : Meter ℚ} (h : m.Sound) (us : List Use) : (m.run us).Sound := by
  induction us generalizing m with
  | nil => exact h
  | cons u us ih =>
    rw [run_cons]
    exact ih (step_sound h u)

end Meter

end TenantGateway
