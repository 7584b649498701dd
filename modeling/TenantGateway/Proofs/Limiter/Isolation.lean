/-
Tenants share a limiter and no bucket.

`Use.concerns` says which uses can bear on a tenant: its own requests and looks at its balance, and the syncs and reloads, which
are for all. Two meters agree on a tenant (`AgreeOn`) if they take budgets from the same registry and hold the same bucket for it.
A use that concerns the tenant is answered by both alike and keeps the agreement (`step_concerned`), and one that does not keeps
it with a meter that never sees that use (`step_unconcerned`).
- `isolated`: a tenant's answers and its bucket are those of the run from which all uses of other tenants are left out.
-/
import TenantGateway.Proofs.Limiter.Meter

namespace TenantGateway

namespace Limiter

variable {α : Type} [Quantity α]

theorem peek_answer (l : Limiter α) (id : String) (now : ℤ) :
    (l.peek id now).2 = (l.buckets.get? id).map fun b => (b.refill now).remaining := by
  unfold peek
  cases l.buckets.get? id <;> rfl

end Limiter

namespace Meter

/-- whether a use can bear on a tenant -/
def Use.concerns (id : String) : Use → Bool
  | .ask t _ _ => t.id = id
  | .peek j _ => j = id
  | .sync _ | .reload _ => true

/-- a run without the requests and looks of other tenants -/
def withoutOthers (id : String) (us : List Use) : List Use :=
  us.filter (·.concerns id)

variable {α : Type}

/-- two meters are the same to a tenant -/
structure AgreeOn (id : String) (m m' : Meter α) : Prop where
  registry : m.registry = m'.registry
  bucket : m.bucket? id = m'.bucket? id

theorem AgreeOn.refl (id : String) (m : Meter α) : AgreeOn id m m := ⟨rfl, rfl⟩

theorem AgreeOn.authority {id : String} {m m' : Meter α} (agree : AgreeOn id m m') : m.authority = m'.authority :=
  congrArg (Option.map Registry.current) agree.registry

variable [Quantity α] {id : String} {m m' : Meter α}

/-! ## One use -/

theorem bucket?_ask (m : Meter α) (t : Tenant) (cost : ℕ) (now : ℤ) :
    (m.step (.ask t cost now)).1.bucket? id =
      if id = t.id then
        match Limiter.liveBudget m.authority t with
        | none => m.bucket? id
        | some n => some ((m.limiter.purse t.id n now).tryTake cost now).1
      else m.bucket? id := by
  cases budget : Limiter.liveBudget m.authority t with
  | none =>
    rw [ask_of_no_budget budget]
    split_ifs <;> rfl
  | some n =>
    rw [ask_of_budget budget]
    exact Table.get?_insert ..

theorem bucket?_peek (m : Meter α) (j : String) (now : ℤ) :
    (m.step (.peek j now)).1.bucket? id = if id = j then (m.bucket? id).map (·.refill now) else m.bucket? id :=
  Limiter.get?_peek m.limiter j now id

theorem bucket?_sync (m : Meter α) (s : Snapshot) :
    (m.step (.sync s)).1.bucket? id = (m.bucket? id).bind fun b => (s.budget? id).map b.reconfigure :=
  Limiter.get?_sync m.limiter s id

/-- what a reload comes to is for the registry alone to say -/
theorem reload_same (same : m.registry = m'.registry) (tenants : List TenantConfig) :
    (m.step (.reload tenants)).1.registry = (m'.step (.reload tenants)).1.registry ∧
      (m.step (.reload tenants)).2 = (m'.step (.reload tenants)).2 := by
  unfold step
  dsimp only
  rw [same]
  cases m'.registry with
  | none => exact ⟨same, rfl⟩
  | some r =>
    dsimp only
    cases r.reload tenants with
    | ok r' => exact ⟨rfl, rfl⟩
    | error e => exact ⟨same, rfl⟩

/-- a use of another tenant leaves what counts for this one -/
theorem step_unconcerned (m : Meter α) {u : Use} (other : u.concerns id = false) : AgreeOn id (m.step u).1 m := by
  cases u with
  | ask t cost now =>
    have ne : ¬ id = t.id := fun same => by simp [Use.concerns, same] at other
    exact ⟨rfl, by rw [bucket?_ask, if_neg ne]⟩
  | peek j now =>
    have ne : ¬ id = j := fun same => by simp [Use.concerns, same] at other
    exact ⟨rfl, by rw [bucket?_peek, if_neg ne]⟩
  | sync s => cases other
  | reload tenants => cases other

/-- a use that concerns a tenant is answered from what counts for it, and changes that in one way only -/
theorem step_concerned (agree : AgreeOn id m m') {u : Use} (concerned : u.concerns id = true) :
    AgreeOn id (m.step u).1 (m'.step u).1 ∧ (m.step u).2 = (m'.step u).2 := by
  cases u with
  | ask t cost now =>
    obtain rfl : t.id = id := of_decide_eq_true concerned
    have purse (n : ℕ) : m.limiter.purse t.id n now = m'.limiter.purse t.id n now := by
      have held : m.limiter.buckets.get? t.id = m'.limiter.buckets.get? t.id := agree.bucket
      rw [Limiter.purse, Limiter.purse, held]
    refine ⟨⟨agree.registry, ?_⟩, ?_⟩
    · simp only [bucket?_ask, agree.authority, agree.bucket, purse]
    · cases budget : Limiter.liveBudget m'.authority t with
      | none => rw [ask_of_no_budget budget, ask_of_no_budget (agree.authority ▸ budget)]
      | some n => rw [ask_of_budget budget, ask_of_budget (agree.authority ▸ budget), purse]
  | peek j now =>
    obtain rfl : j = id := of_decide_eq_true concerned
    refine ⟨⟨agree.registry, by rw [bucket?_peek, bucket?_peek, agree.bucket]⟩, ?_⟩
    have balance : (m.limiter.peek j now).2 = (m'.limiter.peek j now).2 := by
      rw [Limiter.peek_answer, Limiter.peek_answer, show m.limiter.buckets.get? j = _ from agree.bucket]
      rfl
    exact congrArg Answer.balance balance
  | sync s => exact ⟨⟨agree.registry, by rw [bucket?_sync, bucket?_sync, agree.bucket]⟩, rfl⟩
  | reload tenants =>
    obtain ⟨registry, answer⟩ := reload_same agree.registry tenants
    refine ⟨⟨registry, ?_⟩, answer⟩
    rw [bucket?, bucket?, reload_limiter, reload_limiter]
    exact agree.bucket

/-! ## Runs -/

/-- leaving out the uses of other tenants keeps the agreement, and the answers of all that is left -/
theorem run_withoutOthers (agree : AgreeOn id m m') (us : List Use) :
    AgreeOn id (m.run us) (m'.run (withoutOthers id us)) ∧
      m'.log (withoutOthers id us) = (m.log us).filter (·.1.concerns id) := by
  induction us generalizing m m' with
  | nil => exact ⟨agree, rfl⟩
  | cons u us ih =>
    rw [run_cons, log_cons, List.filter_cons]
    cases concerned : u.concerns id with
    | true =>
      obtain ⟨agree', answer⟩ := step_concerned agree concerned
      have kept : withoutOthers id (u :: us) = u :: withoutOthers id us := List.filter_cons_of_pos concerned
      rw [kept, run_cons, log_cons, if_pos rfl, answer]
      exact ⟨(ih agree').1, congrArg _ (ih agree').2⟩
    | false =>
      have left : AgreeOn id (m.step u).1 m := step_unconcerned m concerned
      have agree' : AgreeOn id (m.step u).1 m' := ⟨left.registry.trans agree.registry, left.bucket.trans agree.bucket⟩
      have dropped : withoutOthers id (u :: us) = withoutOthers id us :=
        List.filter_cons_of_neg (ne_true_of_eq_false concerned)
      rw [dropped, if_neg Bool.false_ne_true]
      exact ih agree'

/-- **Tenants do not influence each other's limit.** Take a limiter nobody has used yet, bound to a registry or not, and any run
of requests and looks at balances of any tenants, syncs and reloads. Leave out of the run all that other tenants asked and looked
at: every use that is left, those of this tenant among them, gets the answer it got, and at every point of the run the tenant has
the bucket that it had there, or none if it had none. -/
theorem isolated (registry : Option Registry) (id : String) (us : List Use) :
    let m : Meter α := start registry
    m.log (withoutOthers id us) = (m.log us).filter (·.1.concerns id) ∧
      ∀ n, (m.run (withoutOthers id (us.take n))).bucket? id = (m.run (us.take n)).bucket? id := by
  intro m
  refine ⟨(run_withoutOthers (.refl id m) us).2, fun n => ?_⟩
  exact (run_withoutOthers (.refl id m) (us.take n)).1.bucket.symm

end Meter

end TenantGateway
