/-
A registry after any history of reloads.

- `checkTenants_eq_error_iff`: a list is refused for the first rule that its first offending tenant breaks, the rules in the
  order of `TenantRule.order`;
- `run_eq`: after any reloads the registry holds the last list that was accepted, each accepted one being a generation.
`holds_last_accepted` puts them together with what is found in such a registry.
-/
import Mathlib.Data.List.DropRight
import TenantGateway.Proofs.Registry.Accepted

namespace TenantGateway

/-! ## Blank names -/

namespace Text

theorem trimChars_eq_nil_iff (cs : List Char) : trimChars cs = [] ↔ ∀ c ∈ cs, isBlank c = true := by
  have ends : trimChars cs = (cs.dropWhile isBlank).rdropWhile isBlank := rfl
  rw [ends, List.rdropWhile_eq_nil_iff]
  constructor
  · intro blank
    -- what is dropped at the front is blank, and so is all that is left
    rw [← List.takeWhile_append_dropWhile (p := isBlank) (l := cs)]
    intro c hc
    rcases List.mem_append.1 hc with front | back
    · exact List.mem_takeWhile_imp front
    · exact blank c back
  · intro blank
    rw [List.dropWhile_eq_nil_iff.2 blank]
    exact fun c hc => absurd hc List.not_mem_nil

/-- a text is blank if nothing is left of it after trimming -/
theorem trim_eq_empty_iff (s : String) : trim s = "" ↔ isBlankText s = true := by
  have empty : trim s = "" ↔ trimChars s.toList = [] := by
    rw [trim, ← String.ofList_nil, String.ofList_inj]
  rw [empty, trimChars_eq_nil_iff, isBlankText, List.all_eq_true]

end Text

/-! ## The rules in their order -/

/-- what a tenant is checked for -/
inductive TenantRule where
  | named
  | distinct
  | funded
  | affordable
  | matched
  deriving DecidableEq, Repr

namespace TenantRule

/-- the order of the checks -/
def order : List TenantRule := [.named, .distinct, .funded, .affordable, .matched]

/-- the rules that are checked before one -/
def earlier (rule : TenantRule) : List TenantRule :=
  order.takeWhile (· ≠ rule)

/-- whether a tenant keeps a rule, after some others in its list -/
def Holds (cost : ℕ) (before : List TenantConfig) (t : TenantConfig) : TenantRule → Prop
  | .named => Text.trim t.id ≠ ""
  | .distinct => ∀ u ∈ before, u.id ≠ t.id
  | .funded => 1 ≤ t.tokensPerMinute
  | .affordable => t.enabled = true → cost ≤ t.tokensPerMinute
  | .matched => Category.unmatched ∉ t.backends

instance (cost : ℕ) (before : List TenantConfig) (t : TenantConfig) : (rule : TenantRule) → Decidable (rule.Holds cost before t)
  | .named => inferInstanceAs (Decidable (Text.trim t.id ≠ ""))
  | .distinct => inferInstanceAs (Decidable (∀ u ∈ before, u.id ≠ t.id))
  | .funded => inferInstanceAs (Decidable (1 ≤ t.tokensPerMinute))
  | .affordable => inferInstanceAs (Decidable (t.enabled = true → cost ≤ t.tokensPerMinute))
  | .matched => inferInstanceAs (Decidable (Category.unmatched ∉ t.backends))

/-- what is said of a tenant that breaks it -/
def complaint (cost : ℕ) (t : TenantConfig) : TenantRule → String
  | .named => "tenant id must not be empty"
  | .distinct => "duplicate tenant id: " ++ t.id
  | .funded => "tenant " ++ t.id ++ ": rate_limit.tokens_per_minute must be >= 1"
  | .affordable => "tenant " ++ t.id ++ ": rate_limit.tokens_per_minute (" ++ toString t.tokensPerMinute
      ++ ") is below gateway.request_cost (" ++ toString cost ++ ")"
  | .matched => "tenant " ++ t.id ++ ": 'unmatched' is not a backend"

end TenantRule

/-- a tenant is the first offender of its list, after acceptable ones, and a rule is the first that it breaks -/
structure FirstBreach (cost : ℕ) (before : List TenantConfig) (t : TenantConfig) (rule : TenantRule) : Prop where
  accepted : AcceptableTenants before cost
  kept : ∀ r ∈ rule.earlier, r.Holds cost before t
  broken : ¬ rule.Holds cost before t

section

variable {cost : ℕ} {before tenants : List TenantConfig} {t : TenantConfig} {rule : TenantRule}

/-- an acceptable tenant that has none of the names before it keeps every rule -/
theorem TenantRule.holds_iff : (∀ rule : TenantRule, rule.Holds cost before t) ↔
    t.Acceptable cost ∧ ∀ u ∈ before, u.id ≠ t.id := by
  have named : Text.trim t.id ≠ "" ↔ Text.isBlankText t.id = false := by
    rw [Ne, Text.trim_eq_empty_iff, Bool.not_eq_true]
  constructor
  · intro all
    exact ⟨⟨named.1 (all .named), all .funded, all .affordable, all .matched⟩, all .distinct⟩
  · rintro ⟨each, new⟩ (_ | _ | _ | _ | _)
    · exact named.2 each.named
    · exact new
    · exact each.funded
    · exact each.affordable
    · exact each.matched

/-- a list may be judged tenant by tenant, each after the ones before it -/
theorem acceptableTenants_concat_iff :
    AcceptableTenants (before ++ [t]) cost ↔
      AcceptableTenants before cost ∧ ∀ rule : TenantRule, rule.Holds cost before t := by
  rw [TenantRule.holds_iff]
  have ids : ((before ++ [t]).map (·.id)).Nodup ↔ (before.map (·.id)).Nodup ∧ ∀ u ∈ before, u.id ≠ t.id := by
    rw [List.map_append, List.map_singleton, ← List.concat_eq_append, List.nodup_concat, and_comm]
    simp
  constructor
  · rintro ⟨distinct, each⟩
    obtain ⟨distinct, new⟩ := ids.1 distinct
    exact ⟨⟨distinct, fun u hu => each u (List.mem_append_left _ hu)⟩, each t (by simp), new⟩
  · rintro ⟨⟨distinct, each⟩, own, new⟩
    refine ⟨ids.2 ⟨distinct, new⟩, fun u hu => ?_⟩
    rcases List.mem_append.1 hu with early | last
    · exact each u early
    · exact List.mem_singleton.1 last ▸ own

/-- the first rule that a tenant breaks -/
def TenantRule.firstBroken? (cost : ℕ) (before : List TenantConfig) (t : TenantConfig) : Option TenantRule :=
  order.find? fun rule => ¬ rule.Holds cost before t

theorem TenantRule.firstBroken?_eq_none_iff :
    firstBroken? cost before t = none ↔ ∀ rule : TenantRule, rule.Holds cost before t := by
  have listed (rule : TenantRule) : rule ∈ order := by
    cases rule <;> decide
  simp [firstBroken?, listed]

theorem TenantRule.firstBroken?_eq_some_iff :
    firstBroken? cost before t = some rule ↔ (∀ r ∈ rule.earlier, r.Holds cost before t) ∧ ¬ rule.Holds cost before t := by
  have split : order = rule.earlier ++ rule :: (order.dropWhile (· ≠ rule)).tail := by
    cases rule <;> rfl
  constructor
  · intro found
    have broken : ¬ rule.Holds cost before t := by simpa using List.find?_some found
    refine ⟨?_, broken⟩
    rw [firstBroken?, split, List.find?_append] at found
    cases early : rule.earlier.find? fun rule => ¬ rule.Holds cost before t with
    | none => simpa using early
    | some r =>
      -- a rule is not among those before it
      rw [early] at found
      obtain rfl : r = rule := Option.some.inj found
      exact absurd (List.mem_takeWhile_imp (List.mem_of_find?_eq_some early)) (by simp)
  · rintro ⟨kept, broken⟩
    refine List.find?_eq_some_iff_append.2 ⟨by simpa using broken, rule.earlier, _, split, ?_⟩
    simpa using kept

theorem exists_firstBreach (refused : ¬ AcceptableTenants tenants cost) :
    ∃ before t after rule, tenants = before ++ t :: after ∧ FirstBreach cost before t rule := by
  induction tenants using List.reverseRecOn with
  | nil => exact absurd ⟨List.nodup_nil, by simp⟩ refused
  | append_singleton tenants last ih =>
    by_cases acceptable : AcceptableTenants tenants cost
    · have breach : ¬ ∀ rule : TenantRule, rule.Holds cost tenants last :=
        fun all => refused (acceptableTenants_concat_iff.2 ⟨acceptable, all⟩)
      obtain ⟨rule, first⟩ := Option.ne_none_iff_exists'.1 (mt TenantRule.firstBroken?_eq_none_iff.1 breach)
      obtain ⟨kept, broken⟩ := TenantRule.firstBroken?_eq_some_iff.1 first
      exact ⟨tenants, last, [], rule, rfl, acceptable, kept, broken⟩
    · obtain ⟨before, t, after, rule, rfl, first⟩ := ih acceptable
      exact ⟨before, t, after ++ [last], rule, by simp, first⟩

/-- the tenants of a list are checked one after another -/
theorem tenantsFault?_append (cost : ℕ) (seen : List String) (before rest : List TenantConfig) :
    tenantsFault? cost seen (before ++ rest) =
      (tenantsFault? cost seen before).or (tenantsFault? cost ((before.map (·.id)).reverse ++ seen) rest) := by
  induction before generalizing seen with
  | nil => rfl
  | cons t before ih =>
    simp only [List.cons_append, tenantsFault?, ih]
    split_ifs
    · rfl
    · rfl
    · simp [Option.or_assoc]

/-- a tenant is checked for the rules in their order, and then the tenants after it are checked -/
theorem tenantsFault?_cons (cost : ℕ) (before : List TenantConfig) (t : TenantConfig) (after : List TenantConfig) :
    tenantsFault? cost (before.map (·.id)).reverse (t :: after) =
      ((TenantRule.firstBroken? cost before t).map (TenantRule.complaint cost t)).or
        (tenantsFault? cost (t.id :: (before.map (·.id)).reverse) after) := by
  have named : TenantRule.named.Holds cost before t ↔ ¬ Text.isBlankText t.id = true := by
    rw [← Text.trim_eq_empty_iff, TenantRule.Holds]
  have distinct : TenantRule.distinct.Holds cost before t ↔
      ¬ (before.map fun u : TenantConfig => u.id).reverse.contains t.id = true := by
    simp [TenantRule.Holds]
  have funded : TenantRule.funded.Holds cost before t ↔ ¬ t.tokensPerMinute = 0 := Nat.one_le_iff_ne_zero
  have affordable : TenantRule.affordable.Holds cost before t ↔ ¬ (t.enabled && decide (t.tokensPerMinute < cost)) = true := by
    simp [TenantRule.Holds]
  have matched : TenantRule.matched.Holds cost before t ↔ ¬ t.backends.contains .unmatched = true := by
    simp [TenantRule.Holds]
  have next (rule : TenantRule) (rules : List TenantRule) :
      (rule :: rules).find? (fun rule => ¬ rule.Holds cost before t) =
        if rule.Holds cost before t then rules.find? (fun rule => ¬ rule.Holds cost before t) else some rule := by
    rw [List.find?_cons]
    split_ifs with holds <;> simp [holds]
  rw [tenantsFault?, TenantConfig.fault?, TenantRule.firstBroken?, TenantRule.order]
  simp only [next, List.find?_nil, named, distinct, funded, affordable, matched, ite_not]
  split_ifs <;> rfl

theorem FirstBreach.fault (breach : FirstBreach cost before t rule) (after : List TenantConfig) :
    tenantsFault? cost [] (before ++ t :: after) = some (rule.complaint cost t) := by
  have clean : tenantsFault? cost [] before = none :=
    (tenantsFault?_eq_none_iff cost [] before).2 ⟨by simp, breach.accepted⟩
  have first : TenantRule.firstBroken? cost before t = some rule :=
    TenantRule.firstBroken?_eq_some_iff.2 ⟨breach.kept, breach.broken⟩
  rw [tenantsFault?_append, clean, Option.none_or, List.append_nil, tenantsFault?_cons, first]
  rfl

/-- **Why a list is refused.** -/
theorem checkTenants_eq_error_iff (tenants : List TenantConfig) (cost : ℕ) (e : GatewayError) :
    checkTenants tenants cost = .error e ↔
      ∃ before t after rule, tenants = before ++ t :: after ∧ FirstBreach cost before t rule ∧
        e = .badRequest (rule.complaint cost t) := by
  constructor
  · intro refused
    have unacceptable : ¬ AcceptableTenants tenants cost := by
      rw [← checkTenants_eq_ok_iff, refused]
      nofun
    obtain ⟨before, t, after, rule, rfl, breach⟩ := exists_firstBreach unacceptable
    rw [checkTenants, breach.fault after] at refused
    exact ⟨before, t, after, rule, rfl, breach, (Except.error.inj refused).symm⟩
  · rintro ⟨before, t, after, rule, rfl, breach, rfl⟩
    rw [checkTenants, breach.fault after]

end

instance (tenants : List TenantConfig) (cost : ℕ) : Decidable (AcceptableTenants tenants cost) :=
  decidable_of_iff _ (checkTenants_eq_ok_iff tenants cost)

theorem acceptableTenants_iff {tenants : List TenantConfig} {cost : ℕ} :
    AcceptableTenants tenants cost ↔
      (∀ c ∈ tenants, Text.trim c.id ≠ "") ∧ (tenants.map (·.id)).Nodup ∧ (∀ c ∈ tenants, 1 ≤ c.tokensPerMinute) ∧
        (∀ c ∈ tenants, c.enabled = true → cost ≤ c.tokensPerMinute) ∧ ∀ c ∈ tenants, Category.unmatched ∉ c.backends := by
  simp only [Ne, Text.trim_eq_empty_iff, Bool.not_eq_true]
  constructor
  · rintro ⟨distinct, each⟩
    exact ⟨fun c hc => (each c hc).named, distinct, fun c hc => (each c hc).funded, fun c hc => (each c hc).affordable,
      fun c hc => (each c hc).matched⟩
  · rintro ⟨named, distinct, funded, affordable, matched⟩
    exact ⟨distinct, fun c hc => ⟨named c hc, funded c hc, affordable c hc, matched c hc⟩⟩

/-! ## What an entry says -/

theorem Tenant.backendEnabled_iff {t : Tenant} {category : Category} : t.backendEnabled category = true ↔ category ∈ t.backends :=
  List.contains_iff_mem

/-- a tenant is as an entry of a list describes it; without a display name it goes by its id -/
structure TenantConfig.Describes (c : TenantConfig) (t : Tenant) : Prop where
  id : t.id = c.id
  displayName : t.displayName = c.displayName.getD c.id
  enabled : t.enabled = c.enabled
  backends : t.backends = c.backends
  /-- it may use the backends that the entry lists, and no others -/
  allowed : ∀ category, t.backendEnabled category = true ↔ category ∈ c.backends
  tokensPerMinute : t.tokensPerMinute = c.tokensPerMinute
  policy : t.policy = c.policy

/-- an entry describes one tenant -/
theorem TenantConfig.describes_iff {c : TenantConfig} {t : Tenant} : c.Describes t ↔ t = .ofConfig c := by
  constructor
  · intro described
    obtain ⟨id, displayName, enabled, backends, tokensPerMinute, policy⟩ := t
    obtain ⟨rfl, rfl, rfl, rfl, -, rfl, rfl⟩ := described
    rfl
  · rintro rfl
    exact ⟨rfl, rfl, rfl, rfl, fun _ => Tenant.backendEnabled_iff, rfl, rfl⟩

namespace Registry

/-! ## Any history -/

/-- a reload is attempted; the registry stays as it is if the list is refused -/
def step (r : Registry) (tenants : List TenantConfig) : Registry :=
  match r.reload tenants with
  | .ok r => r
  | .error _ => r

def run (r : Registry) (lists : List (List TenantConfig)) : Registry :=
  lists.foldl step r

/-- the lists of a history that are accepted, under the cost of a request -/
def taken (cost : ℕ) (lists : List (List TenantConfig)) : List (List TenantConfig) :=
  lists.filter (AcceptableTenants · cost)

/-- the registry that holds a list as some generation -/
def holding (tenants : List TenantConfig) (generation cost : ℕ) : Registry :=
  ⟨⟨tenants.map .ofConfig, generation⟩, cost⟩

variable {held tenants : List TenantConfig} {generation cost : ℕ}

theorem step_of_acceptable (acceptable : AcceptableTenants tenants cost) :
    (holding held generation cost).step tenants = holding tenants (generation + 1) cost := by
  have reloaded : (holding held generation cost).reload tenants = .ok (holding tenants (generation + 1) cost) :=
    reload_eq_ok_iff.2 ⟨acceptable, rfl⟩
  rw [step, reloaded]

theorem step_of_refused {r : Registry} (refused : ¬ AcceptableTenants tenants r.requestCost) : r.step tenants = r := by
  unfold step
  split
  · rename_i r' reloaded
    exact absurd (reload_eq_ok_iff.1 reloaded).1 refused
  · rfl

/-- after any history a registry holds the last list that was accepted, and has counted those that were -/
theorem run_eq (first : List TenantConfig) (generation cost : ℕ) (lists : List (List TenantConfig)) :
    (holding first generation cost).run lists =
      holding ((taken cost lists).getLast?.getD first) (generation + (taken cost lists).length) cost := by
  induction lists generalizing first generation with
  | nil => rfl
  | cons tenants lists ih =>
    have next : (holding first generation cost).run (tenants :: lists) =
        ((holding first generation cost).step tenants).run lists := rfl
    by_cases acceptable : AcceptableTenants tenants cost
    · have more : taken cost (tenants :: lists) = tenants :: taken cost lists := by simp [taken, acceptable]
      rw [next, step_of_acceptable acceptable, ih, more, List.getLast?_cons, List.length_cons, Option.getD_some,
        Nat.add_assoc, Nat.add_comm 1]
    · have same : taken cost (tenants :: lists) = taken cost lists := by simp [taken, acceptable]
      rw [next, step_of_refused acceptable, ih, same]

/-- the list that is held is an acceptable one -/
theorem acceptable_last {first : List TenantConfig} (acceptable : AcceptableTenants first cost)
    (lists : List (List TenantConfig)) : AcceptableTenants ((taken cost lists).getLast?.getD first) cost := by
  cases last : (taken cost lists).getLast? with
  | none => exact acceptable
  | some tenants =>
    have member := List.mem_of_getLast? last
    exact of_decide_eq_true (List.mem_filter.1 member).2

theorem resolve_eq_ok_iff {r : Registry} {id : String} {t : Tenant} : r.resolve id = .ok t ↔ r.current.get? id = some t := by
  unfold resolve
  cases r.current.get? id <;> simp

theorem resolve_eq_error_iff {r : Registry} {id : String} {e : GatewayError} :
    r.resolve id = .error e ↔ e = .unknownTenant id ∧ r.current.get? id = none := by
  unfold resolve
  cases r.current.get? id <;> simp [eq_comm]

/-- what is found under an id is the tenant that the list's entry for it describes -/
theorem get?_holding_eq_some_iff (acceptable : AcceptableTenants held cost) {id : String} {t : Tenant} :
    (holding held generation cost).current.get? id = some t ↔ ∃ c ∈ held, c.id = id ∧ c.Describes t := by
  refine (acceptable.accepted generation).get?_eq_some_iff.trans ?_
  simp only [TenantConfig.describes_iff]
  constructor
  · rintro ⟨member, rfl⟩
    obtain ⟨c, hc, rfl⟩ := List.mem_map.1 member
    exact ⟨c, hc, rfl, rfl⟩
  · rintro ⟨c, hc, rfl, rfl⟩
    exact ⟨List.mem_map.2 ⟨c, hc, rfl⟩, rfl⟩

theorem get?_holding_eq_none_iff {id : String} :
    (holding held generation cost).current.get? id = none ↔ ∀ c ∈ held, c.id ≠ id := by
  change Snapshot.get? ⟨held.map .ofConfig, generation⟩ id = none ↔ _
  rw [Snapshot.get?, List.find?_eq_none, List.forall_mem_map]
  simp only [decide_eq_true_eq]
  rfl

theorem reload_eq_error_iff (r : Registry) (next : List TenantConfig) (e : GatewayError) :
    r.reload next = .error e ↔
      ∃ before t after rule, next = before ++ t :: after ∧ FirstBreach r.requestCost before t rule ∧
        e = .badRequest (rule.complaint r.requestCost t) := by
  rw [← checkTenants_eq_error_iff, reload_eq]
  cases checkTenants next r.requestCost <;> simp [Except.map]

/-- **A registry is the last list it accepted.** Take a registry that was made from a list, under any cost of a request, and any
history of reloads. Its generation is one more than the number of lists that were accepted, and it has one tenant for each entry
of the last of them. An id is resolved if this list has an entry for it, and to the tenant that has the display name, the switch,
the backends, the budget and the policy of the entry; any other id is unknown, and so is every id that is blank. The next list is
accepted if and only if every id in it has something left after trimming, the ids are distinct, every budget is one token at least,
every enabled tenant's budget pays for a request, and nobody lists `unmatched`. Otherwise the answer is what is said of the first
tenant that breaks a rule, by the first rule that it breaks, and the registry stays as it is. -/
theorem holds_last_accepted {first : List TenantConfig} {cost : ℕ} {start : Registry} (made : make first cost = .ok start)
    (lists : List (List TenantConfig)) :
    let r := start.run lists
    let last := (taken cost lists).getLast?.getD first
    r.current.generation = 1 + (taken cost lists).length ∧ r.current.size = last.length ∧
    (∀ id t, r.resolve id = .ok t ↔ ∃ c ∈ last, c.id = id ∧ c.Describes t) ∧
    (∀ id e, r.resolve id = .error e ↔ e = .unknownTenant id ∧ ∀ c ∈ last, c.id ≠ id) ∧
    (∀ id, Text.trim id = "" → r.resolve id = .error (.unknownTenant id)) ∧
    ∀ next,
      ((∃ r', r.reload next = .ok r') ↔
        (∀ c ∈ next, Text.trim c.id ≠ "") ∧ (next.map (·.id)).Nodup ∧ (∀ c ∈ next, 1 ≤ c.tokensPerMinute) ∧
          (∀ c ∈ next, c.enabled = true → cost ≤ c.tokensPerMinute) ∧ ∀ c ∈ next, Category.unmatched ∉ c.backends) ∧
      (∀ e, r.reload next = .error e ↔
        ∃ before t after rule, next = before ++ t :: after ∧ FirstBreach cost before t rule ∧
          e = .badRequest (rule.complaint cost t)) ∧
      ∀ e, r.reload next = .error e → r.step next = r := by
  intro r last
  obtain ⟨acceptable, rfl⟩ := make_eq_ok_iff.1 made
  have held : r = holding last (1 + (taken cost lists).length) cost := run_eq first 1 cost lists
  have rules : AcceptableTenants last cost := acceptable_last acceptable lists
  rw [held]
  have unknown : ∀ id e, (holding last (1 + (taken cost lists).length) cost).resolve id = .error e ↔
      e = .unknownTenant id ∧ ∀ c ∈ last, c.id ≠ id := by
    intro id e
    rw [resolve_eq_error_iff, get?_holding_eq_none_iff]
  refine ⟨rfl, List.length_map _, ?_, unknown, ?_, ?_⟩
  · intro id t
    rw [resolve_eq_ok_iff, get?_holding_eq_some_iff rules]
  · intro id blank
    refine (unknown id _).2 ⟨rfl, ?_⟩
    rintro c hc rfl
    exact (acceptableTenants_iff.1 rules).1 c hc blank
  · intro next
    refine ⟨?_, reload_eq_error_iff _ next, ?_⟩
    · rw [← acceptableTenants_iff]
      simp only [reload_eq_ok_iff, exists_and_left, exists_eq, and_true]
      rfl
    · intro e refused
      rw [step, refused]

/-- a policy that has hardly anything of the one by default -/
def openPolicy : TenantPolicy :=
  { piiRedaction := { enabled := true, mode := .failOpen }, usageLogging := true, streamingMetrics := true }

/-- an accepted list between two that are refused, one for a name that comes twice and one for a budget below the cost -/
def mixedReloads : List (List TenantConfig) :=
  [[{ id := "a", tokensPerMinute := 5 }, { id := "a", tokensPerMinute := 9 }],
    [{ id := "b", tokensPerMinute := 7 },
      { id := "c", displayName := some "third", enabled := false, backends := [.openai], tokensPerMinute := 1, policy := openPolicy }],
    [{ id := "d", tokensPerMinute := 1 }]]

/-- **Accepted and refused reloads.** After these the registry has the two tenants of the middle list, as generation two, each with all
that its entry says; a list whose second tenant has a blank name, and no budget either, is refused for the name. -/
theorem holds_last_accepted_mixed :
    let first : List TenantConfig := [{ id := "a", tokensPerMinute := 4 }]
    let next : List TenantConfig := [{ id := "e", tokensPerMinute := 3 }, { id := " ", tokensPerMinute := 0 }]
    make first 2 = .ok (holding first 1 2) ∧
    let r := (holding first 1 2).run mixedReloads
    r.current.generation = 2 ∧ r.current.size = 2 ∧
      r.resolve "b" = .ok
        { id := "b", displayName := "b", enabled := true, backends := [.documentIntelligence, .openai], tokensPerMinute := 7
          policy := {} } ∧
      r.resolve "c" = .ok
        { id := "c", displayName := "third", enabled := false, backends := [.openai], tokensPerMinute := 1, policy := openPolicy } ∧
      r.resolve "a" = .error (.unknownTenant "a") ∧ r.reload next = .error (.badRequest "tenant id must not be empty") ∧
      r.step next = r := by
  intro first next
  have made : make first 2 = .ok (holding first 1 2) := by decide +kernel
  have taken : taken 2 mixedReloads = [mixedReloads[1]] := by decide +kernel
  obtain ⟨generation, size, found, unknown, -, reload⟩ := holds_last_accepted made mixedReloads
  obtain ⟨-, refused, kept⟩ := reload next
  rw [taken] at generation size found unknown
  have breach : FirstBreach 2 [{ id := "e", tokensPerMinute := 3 }] { id := " ", tokensPerMinute := 0 } .named :=
    ⟨by decide +kernel, by decide +kernel, by decide +kernel⟩
  have answer := (refused _).2 ⟨_, _, [], .named, rfl, breach, rfl⟩
  refine ⟨made, generation, size, ?_, ?_, (unknown "a" _).2 ⟨rfl, by decide +kernel⟩, answer, kept _ answer⟩
  · apply (found "b" _).2
    refine ⟨{ id := "b", tokensPerMinute := 7 }, List.mem_cons_self, rfl, ?_⟩
    exact ⟨rfl, rfl, rfl, rfl, fun _ => Tenant.backendEnabled_iff, rfl, rfl⟩
  · apply (found "c" _).2
    refine ⟨_, List.mem_cons_of_mem _ List.mem_cons_self, rfl, ?_⟩
    exact ⟨rfl, rfl, rfl, rfl, fun _ => Tenant.backendEnabled_iff, rfl, rfl⟩

end Registry

end TenantGateway
