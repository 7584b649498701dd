/-
Which lists of tenants are accepted, and what a registry is that takes over nothing else.

`checkTenants_eq_ok_iff` states the rules for a list. `Snapshot.Accepted` states them of the tenants that were taken over;
`Registry.accepted_make` and `Registry.accepted_reload` say that a registry never holds others. In an accepted snapshot the
tenant with an id is the only one, so that a budget is the budget of an enabled tenant (`budget?_eq_some_iff`) and pays for
one request at least (`cost_le_budget`).
-/
import Mathlib.Tactic
import TenantGateway.Registry

namespace TenantGateway

/-! ## Lists of tenants -/

/-- what is asked of a tenant by itself, under the cost of a request -/
structure TenantConfig.Acceptable (t : TenantConfig) (cost : ℕ) : Prop where
  named : Text.isBlankText t.id = false
  funded : 1 ≤ t.tokensPerMinute
  affordable : t.enabled = true → cost ≤ t.tokensPerMinute
  matched : Category.unmatched ∉ t.backends

theorem TenantConfig.acceptable_iff (t : TenantConfig) (cost : ℕ) :
    t.Acceptable cost ↔ Text.isBlankText t.id = false ∧ t.fault? cost = none := by
  have fault : t.fault? cost = none ↔
      1 ≤ t.tokensPerMinute ∧ (t.enabled = true → cost ≤ t.tokensPerMinute) ∧ Category.unmatched ∉ t.backends := by
    unfold fault?
    split_ifs with zero low unmatched
    · simp [zero]
    · simp only [Bool.and_eq_true, decide_eq_true_eq] at low
      simp only [false_iff]
      rintro ⟨-, affordable, -⟩
      exact absurd (affordable low.1) (not_le.2 low.2)
    · simp only [List.contains_iff_mem] at unmatched
      simp [unmatched]
    · simp only [Bool.and_eq_true, decide_eq_true_eq, not_and, not_lt] at low
      simp only [List.contains_iff_mem] at unmatched
      exact iff_of_true rfl ⟨Nat.one_le_iff_ne_zero.2 zero, low, unmatched⟩
  rw [fault]
  exact ⟨fun h => ⟨h.named, h.funded, h.affordable, h.matched⟩, fun ⟨n, f, a, m⟩ => ⟨n, f, a, m⟩⟩

/-- what is asked of a list of tenants -/
structure AcceptableTenants (tenants : List TenantConfig) (cost : ℕ) : Prop where
  distinct : (tenants.map (·.id)).Nodup
  each : ∀ t ∈ tenants, t.Acceptable cost

theorem acceptableTenants_cons_iff (t : TenantConfig) (rest : List TenantConfig) (cost : ℕ) :
    AcceptableTenants (t :: rest) cost ↔
      t.Acceptable cost ∧ (∀ u ∈ rest, u.id ≠ t.id) ∧ AcceptableTenants rest cost := by
  have ids : t.id ∉ rest.map (·.id) ↔ ∀ u ∈ rest, u.id ≠ t.id := by
    simp
  constructor
  · rintro ⟨distinct, each⟩
    obtain ⟨new, rest'⟩ := List.nodup_cons.1 distinct
    exact ⟨each t List.mem_cons_self, ids.1 new, rest', fun u hu => each u (List.mem_cons_of_mem t hu)⟩
  · rintro ⟨head, new, rest'⟩
    refine ⟨List.nodup_cons.2 ⟨ids.2 new, rest'.distinct⟩, ?_⟩
    intro u hu
    rcases List.mem_cons.1 hu with rfl | hu
    · exact head
    · exact rest'.each u hu

/-- a list has no fault if its tenants are acceptable and none has a name that was seen before -/
theorem tenantsFault?_eq_none_iff (cost : ℕ) (seen : List String) (tenants : List TenantConfig) :
    tenantsFault? cost seen tenants = none ↔ (∀ t ∈ tenants, t.id ∉ seen) ∧ AcceptableTenants tenants cost := by
  induction tenants generalizing seen with
  | nil => simpa [tenantsFault?] using (⟨List.nodup_nil, by simp⟩ : AcceptableTenants [] cost)
  | cons t rest ih =>
    rw [acceptableTenants_cons_iff, TenantConfig.acceptable_iff]
    unfold tenantsFault?
    split_ifs with blank repeated
    · simp [blank]
    · simp only [List.contains_iff_mem] at repeated
      simp [repeated]
    · simp only [List.contains_iff_mem] at repeated
      rw [Option.or_eq_none_iff, ih]
      simp only [List.mem_cons, not_or, forall_eq_or_imp]
      constructor
      · rintro ⟨fault, new, rest'⟩
        exact ⟨⟨repeated, fun u hu => (new u hu).2⟩, ⟨eq_false_of_ne_true blank, fault⟩, fun u hu => (new u hu).1, rest'⟩
      · rintro ⟨⟨-, unseen⟩, ⟨-, fault⟩, new, rest'⟩
        exact ⟨fault, fun u hu => ⟨new u hu, unseen u hu⟩, rest'⟩

/-- **Which lists are accepted.** -/
theorem checkTenants_eq_ok_iff (tenants : List TenantConfig) (cost : ℕ) :
    checkTenants tenants cost = .ok () ↔ AcceptableTenants tenants cost := by
  have fault := tenantsFault?_eq_none_iff cost [] tenants
  simp only [List.not_mem_nil, not_false_eq_true, implies_true, true_and] at fault
  rw [← fault]
  unfold checkTenants
  cases tenantsFault? cost [] tenants <;> simp

theorem map_checkTenants_eq_ok_iff {β : Type} (tenants : List TenantConfig) (cost : ℕ) (b b' : β) :
    ((checkTenants tenants cost).map fun _ => b) = .ok b' ↔ AcceptableTenants tenants cost ∧ b' = b := by
  rw [← checkTenants_eq_ok_iff]
  cases checkTenants tenants cost with
  | error e => simp [Except.map]
  | ok u => simp [Except.map, eq_comm]

/-! ## Accepted snapshots -/

/-- the tenants of a snapshot follow the rules, under the cost of a request -/
structure Snapshot.Accepted (s : Snapshot) (cost : ℕ) : Prop where
  named : ∀ t ∈ s.tenants, Text.isBlankText t.id = false
  distinct : (s.tenants.map (·.id)).Nodup
  funded : ∀ t ∈ s.tenants, 1 ≤ t.tokensPerMinute
  affordable : ∀ t ∈ s.tenants, t.enabled = true → cost ≤ t.tokensPerMinute

theorem AcceptableTenants.accepted {tenants : List TenantConfig} {cost : ℕ} (h : AcceptableTenants tenants cost)
    (generation : ℕ) : Snapshot.Accepted ⟨tenants.map .ofConfig, generation⟩ cost where
  named := by
    simpa [Tenant.ofConfig] using fun t ht => (h.each t ht).named
  distinct := by
    simpa [Function.comp_def, Tenant.ofConfig] using h.distinct
  funded := by
    simpa [Tenant.ofConfig] using fun t ht => (h.each t ht).funded
  affordable := by
    simpa [Tenant.ofConfig] using fun t ht => (h.each t ht).affordable

namespace Snapshot

variable {s : Snapshot} {cost n : ℕ} {id : String} {t : Tenant}

/-- where ids are distinct no tenant of a list takes the place of another -/
theorem entries_byId {tenants : List TenantConfig} (distinct : (tenants.map (·.id)).Nodup) :
    (byId tenants).entries = tenants.map fun c => (c.id, .ofConfig c) :=
  Table.entries_ofList (by simpa [Function.comp_def] using distinct)

/-- a list of tenants is taken over as it is, if it is accepted -/
theorem make_eq (tenants : List TenantConfig) (cost generation : ℕ) :
    make tenants cost generation =
      (checkTenants tenants cost).map fun _ => ⟨tenants.map .ofConfig, generation⟩ := by
  unfold make
  cases checked : checkTenants tenants cost with
  | error e => rfl
  | ok u =>
    have distinct := ((checkTenants_eq_ok_iff tenants cost).1 checked).distinct
    simp only [entries_byId distinct, List.map_map]
    rfl

/-- the tenant with an id is the only one -/
theorem Accepted.get?_eq_some_iff (h : s.Accepted cost) : s.get? id = some t ↔ t ∈ s.tenants ∧ t.id = id := by
  constructor
  · intro found
    exact ⟨List.mem_of_find?_eq_some found, by simpa using List.find?_some found⟩
  · rintro ⟨member, rfl⟩
    have some' : (s.get? t.id).isSome = true := by
      rw [get?, List.find?_isSome]
      exact ⟨t, member, by simp⟩
    obtain ⟨u, found⟩ := Option.isSome_iff_exists.1 some'
    have same : u = t :=
      List.inj_on_of_nodup_map h.distinct (List.mem_of_find?_eq_some found) member (by simpa using List.find?_some found)
    rw [found, same]

/-- no tenant is called by blanks alone, or by nothing -/
theorem Accepted.get?_blank (h : s.Accepted cost) (blank : Text.isBlankText id = true) : s.get? id = none := by
  refine List.find?_eq_none.2 fun t member => ?_
  have named := h.named t member
  have other : t.id ≠ id := by
    rintro rfl
    simp [blank] at named
  simpa using other

/-- a budget is the budget of an enabled tenant -/
theorem Accepted.budget?_eq_some_iff (h : s.Accepted cost) :
    s.budget? id = some n ↔ ∃ t ∈ s.tenants, t.id = id ∧ t.enabled = true ∧ t.tokensPerMinute = n := by
  simp only [budget?, Option.map_eq_some_iff, Option.filter_eq_some_iff, h.get?_eq_some_iff, and_assoc]

theorem Accepted.budget?_eq_none_iff (h : s.Accepted cost) :
    s.budget? id = none ↔ ¬ ∃ t ∈ s.tenants, t.id = id ∧ t.enabled = true := by
  rw [Option.eq_none_iff_forall_ne_some]
  constructor
  · rintro none ⟨t, member, named, enabled⟩
    exact none t.tokensPerMinute (h.budget?_eq_some_iff.2 ⟨t, member, named, enabled, rfl⟩)
  · rintro none n budget
    obtain ⟨t, member, named, enabled, -⟩ := h.budget?_eq_some_iff.1 budget
    exact none ⟨t, member, named, enabled⟩

/-- a budget pays for one request at least -/
theorem Accepted.cost_le_budget (h : s.Accepted cost) (budget : s.budget? id = some n) : cost ≤ n := by
  obtain ⟨t, member, -, enabled, rfl⟩ := h.budget?_eq_some_iff.1 budget
  exact h.affordable t member enabled

end Snapshot

/-! ## Registries -/

namespace Registry

variable {r r' : Registry} {tenants : List TenantConfig}

/-- the tenants of a registry follow the rules, under its own cost -/
def Accepted (r : Registry) : Prop := r.current.Accepted r.requestCost

theorem make_eq (tenants : List TenantConfig) (cost : ℕ) :
    make tenants cost = (checkTenants tenants cost).map fun _ => ⟨⟨tenants.map .ofConfig, 1⟩, cost⟩ := by
  unfold make
  rw [Snapshot.make_eq]
  cases checkTenants tenants cost <;> rfl

/-- a reload takes over the whole list as the next generation, or fails -/
theorem reload_eq (r : Registry) (tenants : List TenantConfig) :
    r.reload tenants =
      (checkTenants tenants r.requestCost).map fun _ =>
        { r with current := ⟨tenants.map .ofConfig, r.current.generation + 1⟩ } := by
  unfold reload
  rw [Snapshot.make_eq]
  cases checkTenants tenants r.requestCost <;> rfl

theorem make_eq_ok_iff {cost : ℕ} :
    make tenants cost = .ok r ↔ AcceptableTenants tenants cost ∧ r = ⟨⟨tenants.map .ofConfig, 1⟩, cost⟩ := by
  rw [make_eq, map_checkTenants_eq_ok_iff]

theorem reload_eq_ok_iff :
    r.reload tenants = .ok r' ↔
      AcceptableTenants tenants r.requestCost ∧
        r' = { r with current := ⟨tenants.map .ofConfig, r.current.generation + 1⟩ } := by
  rw [reload_eq, map_checkTenants_eq_ok_iff]

theorem requestCost_make {cost : ℕ} (made : make tenants cost = .ok r) : r.requestCost = cost := by
  obtain ⟨-, rfl⟩ := make_eq_ok_iff.1 made
  rfl

theorem accepted_make {cost : ℕ} (made : make tenants cost = .ok r) : r.Accepted := by
  obtain ⟨acceptable, rfl⟩ := make_eq_ok_iff.1 made
  exact acceptable.accepted 1

theorem requestCost_reload (reloaded : r.reload tenants = .ok r') : r'.requestCost = r.requestCost := by
  obtain ⟨-, rfl⟩ := reload_eq_ok_iff.1 reloaded
  rfl

theorem accepted_reload (reloaded : r.reload tenants = .ok r') : r'.Accepted := by
  obtain ⟨acceptable, rfl⟩ := reload_eq_ok_iff.1 reloaded
  exact acceptable.accepted (r.current.generation + 1)

end Registry

end TenantGateway
