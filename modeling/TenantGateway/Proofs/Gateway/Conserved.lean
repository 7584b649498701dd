/-
Requests are conserved in the metrics.

`traffic_conserved` says what the metrics of a gateway tell after any run: the requests that were handled, each once, and each
under the id of a registered tenant or under one label for all others. The number of series is bounded by the tenants that
were ever registered, so that callers cannot make it grow. What the gauge of a tenant tells is what the limiter answered last,
and `Quantity.Measured`, the two laws of numbers that doubles have as well as rationals, keeps such an answer within a tenant's
budget.
-/
import TenantGateway.Proofs.Gateway.Recorded
import TenantGateway.Proofs.Gateway.Reload
import TenantGateway.Proofs.Limiter.Measured

namespace TenantGateway

/-! ## The tokens that an answer tells -/

namespace Bucket

variable {α : Type} [Quantity α] [Quantity.Measured α]

/-- a bucket under a budget never tells more than the budget -/
theorem remaining_le (b : Bucket α) {n : ℕ} (small : n < 2 ^ 32) (cost : ℕ) (now : ℤ) :
    ((b.reconfigure n).tryTake cost now).2.remaining ≤ max n 1 := by
  have small' : max n 1 < 2 ^ 32 := max_lt small (by norm_num)
  have filled : ((b.reconfigure n).refill now).remaining ≤ max n 1 := by
    unfold refill
    split_ifs <;> exact Quantity.Measured.floor_min_le _ small'
  unfold tryTake
  dsimp only
  split_ifs
  · exact (Quantity.Measured.floor_sub_le _ cost).trans filled
  · exact filled

end Bucket

namespace Passage

variable {α W : Type} [Quantity α] {p : Passage α W}

/-- the budgets that a request meets at the limiter are numbers of 32 bits -/
def HasWordBudgets (p : Passage α W) : Prop :=
  ∀ t ∈ p.supplied.registry.current.tenants, t.tokensPerMinute < 2 ^ 32

instance : Decidable p.HasWordBudgets :=
  inferInstanceAs (Decidable (∀ t ∈ p.supplied.registry.current.tenants, t.tokensPerMinute < 2 ^ 32))

theorem remaining_lt [Quantity.Measured α] (words : p.HasWordBudgets) {answer : Admission}
    (decided : p.decision? = some answer) : answer.remaining < 2 ^ 32 := by
  obtain ⟨t, token, authorized, -, rfl, entitled⟩ := decision?_eq_some_iff.1 decided
  obtain ⟨n, budget⟩ := Option.ne_none_iff_exists'.1 (mt charge_revoked_iff.2 entitled)
  have live : Limiter.liveBudget (some p.supplied.registry.current) t = some n := budget
  obtain ⟨holder, held, rfl⟩ := Option.map_eq_some_iff.1 budget
  have small := words holder (List.mem_of_find?_eq_some (Option.filter_eq_some_iff.1 held).1)
  rw [charge, Limiter.charge_of_budget live]
  exact (Bucket.remaining_le _ small _ _).trans_lt (max_lt small (by norm_num))

/-- what the limiter answered last to a request under a label: the tokens that it told were left -/
def latestDecision (tenant : String) (ps : List (Passage α W)) : Option ℕ :=
  ps.reverse.findSome? fun p => if p.label = tenant then p.decision?.map Admission.remaining else none

theorem latest?_record (tenant : String) (ps : List (Passage α W)) :
    Metrics.latest? tenant (ps.map record) = latestDecision tenant ps := by
  simp only [Metrics.latest?, latestDecision, ← List.map_reverse, List.findSome?_map, Function.comp_def,
    record_tenantLabel, record_remaining]

theorem latestDecision_lt [Quantity.Measured α] {ps : List (Passage α W)} (words : ∀ p ∈ ps, p.HasWordBudgets)
    {tenant : String} {n : ℕ} (latest : latestDecision tenant ps = some n) : n < 2 ^ 32 := by
  obtain ⟨p, member, told⟩ := List.exists_of_findSome?_eq_some latest
  split_ifs at told
  obtain ⟨answer, decided, rfl⟩ := Option.map_eq_some_iff.1 told
  exact remaining_lt (words p (List.mem_reverse.1 member)) decided

end Passage

/-! ## Series -/

namespace Metrics

/-- the label sets of all series that belong to a tenant -/
def series (m : Metrics) : List Labels :=
  m.requests.table.keys ++ m.remaining.table.keys ++ m.durations.table.keys ++ m.streamBytes.table.keys

/-- the label sets that requests of these tenants may be counted under -/
def requestSeries (tenants : Finset String) : Finset Labels :=
  (tenants ×ˢ Record.categoryLabels.toFinset ×ˢ Record.outcomeLabels.toFinset).image fun (tenant, category, outcome) =>
    Labels.key [("tenant", tenant), ("category", category), ("outcome", outcome)]

/-- those that their latencies may be observed under -/
def durationSeries (tenants : Finset String) : Finset Labels :=
  (tenants ×ˢ Record.categoryLabels.toFinset).image fun (tenant, category) =>
    Labels.key [("tenant", tenant), ("category", category)]

/-- and those of which there is one for each tenant -/
def tenantSeries (tenants : Finset String) : Finset Labels :=
  tenants.image fun tenant => [("tenant", tenant)]

variable {tenants : Finset String}

theorem card_requestSeries_le (tenants : Finset String) : (requestSeries tenants).card ≤ tenants.card * 52 := by
  refine Finset.card_image_le.trans (le_of_eq ?_)
  rw [Finset.card_product, Finset.card_product]
  congr 1

theorem card_durationSeries_le (tenants : Finset String) : (durationSeries tenants).card ≤ tenants.card * 4 := by
  refine Finset.card_image_le.trans (le_of_eq ?_)
  rw [Finset.card_product]
  congr 1

theorem tenant_mem_of_requestSeries {l : Labels} (member : l ∈ requestSeries tenants) {tenant : String}
    (label : ("tenant", tenant) ∈ l) : tenant ∈ tenants := by
  simp only [requestSeries, Finset.mem_image, Finset.mem_product, Prod.exists] at member
  obtain ⟨own, category, outcome, ⟨known, -⟩, rfl⟩ := member
  simp only [Labels.mem_key, List.mem_cons, Prod.mk.injEq, List.not_mem_nil, or_false] at label
  simp_all

theorem tenant_mem_of_durationSeries {l : Labels} (member : l ∈ durationSeries tenants) {tenant : String}
    (label : ("tenant", tenant) ∈ l) : tenant ∈ tenants := by
  simp only [durationSeries, Finset.mem_image, Finset.mem_product, Prod.exists] at member
  obtain ⟨own, category, ⟨known, -⟩, rfl⟩ := member
  simp only [Labels.mem_key, List.mem_cons, Prod.mk.injEq, List.not_mem_nil, or_false] at label
  simp_all

theorem tenant_mem_of_tenantSeries {l : Labels} (member : l ∈ tenantSeries tenants) {tenant : String}
    (label : ("tenant", tenant) ∈ l) : tenant ∈ tenants := by
  obtain ⟨own, known, rfl⟩ := Finset.mem_image.1 member
  simp_all

/-- all series of these metrics are of these tenants -/
structure WithinTenants (tenants : Finset String) (m : Metrics) : Prop where
  requests : ∀ l ∈ m.requests.table.keys, l ∈ requestSeries tenants
  remaining : ∀ l ∈ m.remaining.table.keys, l ∈ tenantSeries tenants
  durations : ∀ l ∈ m.durations.table.keys, l ∈ durationSeries tenants
  streamBytes : ∀ l ∈ m.streamBytes.table.keys, l ∈ tenantSeries tenants

namespace WithinTenants

variable {m : Metrics} (within : m.WithinTenants tenants)

include within

theorem label_mem {l : Labels} (member : l ∈ m.series) {tenant : String} (label : ("tenant", tenant) ∈ l) :
    tenant ∈ tenants := by
  simp only [series, List.mem_append] at member
  rcases member with ((request | gauge) | duration) | bytes
  · exact tenant_mem_of_requestSeries (within.requests l request) label
  · exact tenant_mem_of_tenantSeries (within.remaining l gauge) label
  · exact tenant_mem_of_durationSeries (within.durations l duration) label
  · exact tenant_mem_of_tenantSeries (within.streamBytes l bytes) label

/-- for each tenant there are four categories, thirteen outcomes, a gauge and a count of bytes -/
theorem length_series_le : m.series.length ≤ tenants.card * 58 := by
  have requests := (m.requests.table.size_le_card _ within.requests).trans (card_requestSeries_le tenants)
  have gauges : m.remaining.table.size ≤ tenants.card :=
    (m.remaining.table.size_le_card _ within.remaining).trans Finset.card_image_le
  have durations := (m.durations.table.size_le_card _ within.durations).trans (card_durationSeries_le tenants)
  have bytes : m.streamBytes.table.size ≤ tenants.card :=
    (m.streamBytes.table.size_le_card _ within.streamBytes).trans Finset.card_image_le
  simp only [series, List.length_append, Table.keys, List.length_map]
  simp only [Table.size] at *
  omega

end WithinTenants

theorem within_ofRecords {rs : List Record} (known : ∀ r ∈ rs, r.tenantLabel ∈ tenants)
    (worded : ∀ r ∈ rs, r.category ∈ Record.categoryLabels) {bytes : Counters}
    (counted : ∀ l ∈ bytes.table.keys, l ∈ tenantSeries tenants) :
    WithinTenants tenants { ofRecords rs with streamBytes := bytes } where
  requests l member := by
    obtain ⟨r, recorded, rfl⟩ := (mem_keys_requests rs l).1 member
    refine Finset.mem_image.2 ⟨(r.tenantLabel, r.category, r.outcome.label), ?_, rfl⟩
    simp [known r recorded, worded r recorded, Record.outcome_label_mem]
  remaining l member := by
    obtain ⟨r, recorded, -, rfl⟩ := (mem_keys_remaining rs l).1 member
    exact Finset.mem_image_of_mem _ (known r recorded)
  durations l member := by
    obtain ⟨r, recorded, rfl⟩ := (mem_keys_durations rs l).1 member
    refine Finset.mem_image.2 ⟨(r.tenantLabel, r.category), ?_, rfl⟩
    simp [known r recorded, worded r recorded]
  streamBytes := counted

end Metrics

/-! ## The metrics of a run -/

namespace Service

open Metrics

variable {α W : Type} [Quantity α]

/-- what metrics tell of the requests that were handled, each counted once -/
structure Conserves (handled : List (Passage α W)) (m : Metrics) : Prop where
  requests : Tells (m.requests.total fun _ => true) handled.length handled.length
  durations : Tells (m.durations.total fun _ => true) handled.length handled.length
  outcomes (tenant category : String) :
    Tells (m.requests.total fun l => l.contains ("tenant", tenant) && l.contains ("category", category))
      (m.durations.observations [("tenant", tenant), ("category", category)]) handled.length
  /-- a gauge is what the limiter answered last; a number beyond 63 bits is told as the largest that they hold -/
  remaining (tenant : String) :
    m.remaining.get? [("tenant", tenant)] =
      (Passage.latestDecision tenant handled).map fun n => ((min n Record.largestSigned : ℕ) : ℤ)

theorem conserves_records {handled : List (Passage α W)} {m : Metrics} {bytes : Counters}
    (same : SameTraffic { ofRecords (handled.map Passage.record) with streamBytes := bytes } m) : Conserves handled m := by
  obtain ⟨requests, remaining, durations, -⟩ := same
  have all := tells_requests (handled.map Passage.record) fun _ => true
  have observed := tells_durations (handled.map Passage.record) fun _ => true
  have outcomes := tells_outcomes (handled.map Passage.record)
  simp only [List.countP_true, List.length_map] at all observed outcomes
  constructor
  · rw [requests]
    exact all
  · rw [durations]
    exact observed
  · rw [requests, durations]
    exact outcomes
  · intro tenant
    rw [remaining, ← Passage.latest?_record]
    exact get?_remaining _ tenant

/-- under budgets of 32 bits nothing is beyond what a gauge can tell -/
theorem Conserves.remaining_exactly [Quantity.Measured α] {handled : List (Passage α W)} {m : Metrics}
    (conserves : Conserves handled m) (words : ∀ p ∈ handled, p.HasWordBudgets) (tenant : String) :
    m.remaining.get? [("tenant", tenant)] = (Passage.latestDecision tenant handled).map fun n : ℕ => (n : ℤ) := by
  rw [conserves.remaining]
  refine Option.map_congr fun n latest => ?_
  have small := Passage.latestDecision_lt words latest
  have fits : n ≤ Record.largestSigned := small.le.trans (by decide)
  rw [min_eq_left fits]

/-- the metrics of a run are those of its requests; bytes apart, which are counted under the ids of tenants -/
theorem run_sameTraffic {config : Config} {source : Option String} {backends : List Category} {sinks : List Sink}
    {start : Gateway α} (built : Gateway.build config source backends sinks = .ok start) (o : Outside W) (world : W)
    (ts : List Turn) :
    ∃ bytes : Counters,
      SameTraffic { ofRecords ((Service.passages o ⟨start, world⟩ ts).map Passage.record) with streamBytes := bytes }
          ((Service.mk start world).run o ts).gateway.diagnostics.metrics ∧
        ∀ l ∈ bytes.table.keys, ∃ id ∈ Service.registered o ⟨start, world⟩ ts, l = [("tenant", id)] := by
  have fresh : start.diagnostics.metrics = .empty := by
    obtain ⟨-, name, registry, routes, -, -, -, rfl⟩ := Gateway.build_eq_ok_iff.1 built
    rfl
  obtain ⟨bytes, same, kept⟩ := (Service.mk start world).run_countsTo o ts
  rw [fresh] at same kept
  refine ⟨bytes, same, fun l member => (kept l member).resolve_left ?_⟩
  simp [Metrics.empty, Counters.empty, Table.keys, Table.empty]

/-- the labels that a run may count its requests under -/
def tenantLabels (o : Outside W) (s : Service α W) (ts : List Turn) : Finset String :=
  insert Record.unresolvedTenant (s.registered o ts).toFinset

theorem within_tenantLabels {o : Outside W} {s : Service α W} {ts : List Turn} {m : Metrics} {bytes : Counters}
    (same : SameTraffic { ofRecords ((s.passages o ts).map Passage.record) with streamBytes := bytes } m)
    (kept : ∀ l ∈ bytes.table.keys, ∃ id ∈ s.registered o ts, l = [("tenant", id)]) :
    m.WithinTenants (s.tenantLabels o ts) := by
  have counted : ∀ l ∈ bytes.table.keys, l ∈ tenantSeries (s.tenantLabels o ts) := by
    intro l member
    obtain ⟨id, known, rfl⟩ := kept l member
    exact Finset.mem_image_of_mem _ (by simp [tenantLabels, known])
  have known : ∀ r ∈ (s.passages o ts).map Passage.record, r.tenantLabel ∈ s.tenantLabels o ts := by
    intro r member
    obtain ⟨p, handled, rfl⟩ := List.mem_map.1 member
    simpa [tenantLabels, p.record_tenantLabel] using s.label_mem o ts p handled
  have worded : ∀ r ∈ (s.passages o ts).map Passage.record, r.category ∈ Record.categoryLabels := by
    intro r member
    obtain ⟨p, -, rfl⟩ := List.mem_map.1 member
    exact p.record_category_mem
  have within := within_ofRecords known worded counted
  obtain ⟨requests, remaining, durations, streamBytes⟩ := same
  exact ⟨requests ▸ within.requests, remaining ▸ within.remaining, durations ▸ within.durations,
    streamBytes ▸ within.streamBytes⟩

/-- **Requests are conserved in the metrics.** Take a gateway that was built from a configuration, any world outside, and any
run of requests and reloads; callers choose the ids of tenants as they like. The counter of requests and the histogram of
their latencies each add up to the requests that were handled, and agree for every tenant and category. The gauge of a tenant
is what the limiter answered last under its label, and there is none if it never answered, whenever the budgets that the
requests met are numbers of 32 bits, and the limiter counts in rationals or in doubles. Every label of a tenant is `unknown` or the
id of a tenant that was registered in the run, so that the number of series is bounded by these tenants alone. -/
theorem traffic_conserved {config : Config} {source : Option String} {backends : List Category} {sinks : List Sink}
    {start : Gateway α} (built : Gateway.build config source backends sinks = .ok start) (o : Outside W) (world : W)
    (ts : List Turn) :
    let s : Service α W := ⟨start, world⟩
    let handled := s.passages o ts
    let m := (s.run o ts).gateway.diagnostics.metrics
    Conserves handled m ∧
      (Quantity.Measured α → (∀ p ∈ handled, p.HasWordBudgets) → ∀ tenant,
        m.remaining.get? [("tenant", tenant)] = (Passage.latestDecision tenant handled).map fun n : ℕ => (n : ℤ)) ∧
      (∀ l ∈ m.series, ∀ tenant, ("tenant", tenant) ∈ l → tenant = "unknown" ∨ tenant ∈ s.registered o ts) ∧
      m.series.length ≤ (s.tenantLabels o ts).card * 58 := by
  intro s handled m
  obtain ⟨bytes, same, kept⟩ := run_sameTraffic built o world ts
  have conserves : Conserves handled m := conserves_records same
  have within : m.WithinTenants (s.tenantLabels o ts) := within_tenantLabels same kept
  refine ⟨conserves, fun measured words => conserves.remaining_exactly words, ?_, within.length_series_le⟩
  intro l member tenant label
  simpa [tenantLabels, Record.unresolvedTenant] using within.label_mem member label

/-- two requests under ids that callers made up, and one of the tenant -/
def madeUpIds : List Turn :=
  [.inbound 0 "1" {} ⟨"ghost-1", "POST", "/openai/chat", .empty, []⟩,
    .inbound 1 "2" {} ⟨"ghost-2", "POST", "/openai/chat", .empty, []⟩,
    .inbound 2 "3" {} ⟨"acme", "POST", "/openai/chat", .empty, []⟩]

/-- **Ids that callers make up share one label.** -/
theorem traffic_conserved_made_up :
    Gateway.build Gateway.tenRequests (some "static") [.openai] [] = .ok Gateway.tenRequestsGateway ∧
    let s : Service ℚ Unit := ⟨Gateway.tenRequestsGateway, ()⟩
    let m := (s.run Gateway.obliging madeUpIds).gateway.diagnostics.metrics
    m.requests.total (fun _ => true) = 3 ∧ m.remaining.get? [("tenant", "acme")] = some 90 ∧
      m.remaining.get? [("tenant", "unknown")] = none ∧
      ∀ l ∈ m.series, ∀ tenant, ("tenant", tenant) ∈ l → tenant = "unknown" ∨ tenant = "acme" := by
  have built : Gateway.build Gateway.tenRequests (some "static") [.openai] [] = .ok Gateway.tenRequestsGateway := by
    rfl
  obtain ⟨conserves, exactly, labels, -⟩ := traffic_conserved built Gateway.obliging () madeUpIds
  have words : ∀ p ∈ Service.passages Gateway.obliging ⟨Gateway.tenRequestsGateway, ()⟩ madeUpIds, p.HasWordBudgets := by
    decide +kernel
  have known : Service.registered Gateway.obliging ⟨Gateway.tenRequestsGateway, ()⟩ madeUpIds =
      ["acme", "acme", "acme", "acme"] := by
    decide +kernel
  refine ⟨built, conserves.requests.exactly (by decide +kernel), ?_, ?_, ?_⟩
  · rw [exactly inferInstance words]
    decide +kernel
  · rw [exactly inferInstance words]
    decide +kernel
  · intro l member tenant label
    rcases labels l member tenant label with unknown | registered
    · exact .inl unknown
    · exact .inr (by simpa [known] using registered)

end Service

end TenantGateway
