/-
What is asked of a configuration, and what is said of one that falls short.

`ConfigRule.order` lists the rules in the order in which they are checked, `ConfigRule.Holds` says what each asks for and
`ConfigRule.Complains` what is said where it is broken. `Checks` relates a computation to the rules that it checks: it succeeds if all of
them hold, and fails with the complaint of the first that does not. Every section is such a computation, one after another makes one
again (`Checks.bind`), and so the whole is one (`Config.checks_validate`). `started_exactly_if_valid` adds that a start checks nothing
else.
-/
import TenantGateway.Proofs.Gateway.Restart
import TenantGateway.Proofs.Registry.History
import TenantGateway.Proofs.Route.FirstMatch

namespace TenantGateway

/-! ## The first that offends -/

/-- a thing is the first of a list that is not as it should be -/
def FirstOffender {α : Type} (Sound : α → Prop) (xs : List α) (x : α) : Prop :=
  ∃ front back, xs = front ++ x :: back ∧ (∀ y ∈ front, Sound y) ∧ ¬Sound x

section

variable {α : Type} {Sound : α → Prop} {xs ys : List α} {x : α}

theorem FirstOffender.offends (first : FirstOffender Sound xs x) : x ∈ xs ∧ ¬Sound x := by
  obtain ⟨front, back, rfl, -, offends⟩ := first
  exact ⟨by simp, offends⟩

theorem firstOffender_nil : ¬FirstOffender Sound [] x := by
  intro first
  exact List.not_mem_nil first.offends.1

theorem firstOffender_cons_iff {y : α} :
    FirstOffender Sound (y :: xs) x ↔ (¬Sound y ∧ x = y) ∨ (Sound y ∧ FirstOffender Sound xs x) := by
  constructor
  · rintro ⟨front, back, split, early, offends⟩
    cases front with
    | nil =>
      obtain ⟨rfl, -⟩ := List.cons.inj split
      exact .inl ⟨offends, rfl⟩
    | cons first front =>
      obtain ⟨rfl, rfl⟩ := List.cons.inj split
      obtain ⟨sound, early⟩ := List.forall_mem_cons.1 early
      exact .inr ⟨sound, front, back, rfl, early, offends⟩
  · rintro (⟨offends, rfl⟩ | ⟨sound, front, back, rfl, early, offends⟩)
    · exact ⟨[], xs, rfl, by simp, offends⟩
    · exact ⟨y :: front, back, rfl, List.forall_mem_cons.2 ⟨sound, early⟩, offends⟩

theorem firstOffender_append_iff :
    FirstOffender Sound (xs ++ ys) x ↔ FirstOffender Sound xs x ∨ ((∀ y ∈ xs, Sound y) ∧ FirstOffender Sound ys x) := by
  induction xs with
  | nil => simp [firstOffender_nil]
  | cons y xs ih =>
    rw [List.cons_append, firstOffender_cons_iff, firstOffender_cons_iff, ih, List.forall_mem_cons]
    tauto

theorem firstOffender_singleton_iff {y : α} : FirstOffender Sound [y] x ↔ ¬Sound y ∧ x = y := by
  simp [firstOffender_cons_iff, firstOffender_nil]

variable {ε β γ : Type} {e : ε}

theorem Except.bind_eq_error_iff {r : Except ε β} {f : β → Except ε γ} :
    (r >>= f) = .error e ↔ r = .error e ∨ ∃ b, r = .ok b ∧ f b = .error e := by
  cases r <;> simp [bind, Except.bind]

/-- a traversal fails with the failure of its first element that fails -/
theorem Except.mapM_eq_error_iff {f : α → Except ε β} :
    xs.mapM f = .error e ↔ ∃ x, FirstOffender (fun x => ∃ y, f x = .ok y) xs x ∧ f x = .error e := by
  induction xs with
  | nil => simp [firstOffender_nil, pure, Except.pure]
  | cons x xs ih =>
    simp only [List.mapM_cons, firstOffender_cons_iff, Except.bind_eq_error_iff, ih]
    cases head : f x <;> simp [pure, Except.pure, head]

theorem Except.forM_eq_error_iff {f : α → Except ε Unit} :
    xs.forM f = .error e ↔ ∃ x, FirstOffender (fun x => f x = .ok ()) xs x ∧ f x = .error e := by
  induction xs with
  | nil => simp [firstOffender_nil, pure, Except.pure]
  | cons x xs ih =>
    unfold List.forM
    simp only [firstOffender_cons_iff, Except.bind_eq_error_iff, ih]
    cases head : f x <;> simp [head]

end

/-! ## The rules -/

/-- what a configuration is checked for -/
inductive ConfigRule where
  | version
  | populated
  | listen
  | requestCost
  | drainGrace
  | bodyLimit
  | tenantHeader
  | timeout
  | endpoints
  | skew
  | tokenVariable
  | routes
  | tenants
  deriving DecidableEq, Repr

/-- the URL begins as one of the web does -/
def BackendEndpoint.OnWeb (e : BackendEndpoint) : Prop :=
  "http://".toList <+: e.url.toList ∨ "https://".toList <+: e.url.toList

namespace RouteConfig

/-- something is left of the pattern after trimming, and its requests are for a backend -/
def Sound (r : RouteConfig) : Prop := Text.trim r.pattern ≠ "" ∧ r.backend ≠ .unmatched

/-- what is said of a route that is not sound -/
def complaint (r : RouteConfig) : String :=
  if Text.trim r.pattern = "" then "route pattern must not be empty"
  else "route '" ++ Text.trim r.pattern ++ "' must target a concrete backend"

end RouteConfig

namespace ConfigRule

/-- the order of the checks -/
def order : List ConfigRule :=
  [.version, .populated, .listen, .requestCost, .drainGrace, .bodyLimit, .tenantHeader, .timeout, .endpoints, .skew,
    .tokenVariable, .routes, .tenants]

variable (c : Config)

/-- what a rule asks of a configuration -/
def Holds : ConfigRule → Prop
  | .version => c.version = 1
  | .populated => c.tenants ≠ []
  | .listen => ∃ address, SocketAddress.parse c.gateway.listen = some address
  | .requestCost => 1 ≤ c.gateway.requestCost
  | .drainGrace => c.gateway.drainGraceMs ≤ 120000
  | .bodyLimit => 1 ≤ c.gateway.maxBodyBytes
  | .tenantHeader => ∀ name, c.gateway.tenantSource = .header name →
      isToken name = true ∧ name.toList.length ≤ HeaderName.maxLength
  | .timeout => 100 ≤ c.backends.timeoutMs ∧ c.backends.timeoutMs ≤ 600000
  | .endpoints => ∀ category endpoint, c.backends.endpoint? category = some endpoint → endpoint.OnWeb
  | .skew => c.credentials.refreshSkewSecs ≤ 3600
  | .tokenVariable => c.credentials.mode = .static → Text.trim c.credentials.staticTokenEnv ≠ ""
  | .routes => ∀ routes, c.routes = some routes → routes ≠ [] ∧ ∀ r ∈ routes, r.Sound
  | .tenants => AcceptableTenants c.tenants c.gateway.requestCost

/-- what is said of a configuration that breaks a rule; of several endpoints, routes or tenants the first is named that breaks it -/
def Complains (text : String) : ConfigRule → Prop
  | .version => text = "unsupported config version " ++ toString c.version
  | .populated => text = "tenants must not be empty"
  | .listen => text = "gateway.listen must be a valid socket address: " ++ c.gateway.listen
  | .requestCost => text = "gateway.request_cost must be >= 1"
  | .drainGrace => text = "gateway.drain_grace_ms must be <= 120000"
  | .bodyLimit => text = "gateway.max_body_bytes must be >= 1"
  | .tenantHeader => ∃ name, c.gateway.tenantSource = .header name ∧
      text = "gateway.tenant_source.name is not a valid header name: " ++ name
  | .timeout => text = "backends.timeout_ms must be between 100 and 600000"
  | .endpoints => ∃ category endpoint,
      FirstOffender (fun e : Category × BackendEndpoint => e.2.OnWeb) c.backends.endpoints (category, endpoint) ∧
        text = "backends." ++ category.name ++ ".url must start with http:// or https://"
  | .skew => text = "credentials.refresh_skew_secs must be <= 3600"
  | .tokenVariable => text = "credentials.static_token_env must name an environment variable"
  | .routes => c.routes = some [] ∧ text = "route table must not be empty" ∨
      ∃ routes r, c.routes = some routes ∧ FirstOffender RouteConfig.Sound routes r ∧ text = r.complaint
  | .tenants => ∃ front t back rule, c.tenants = front ++ t :: back ∧
      FirstBreach c.gateway.requestCost front t rule ∧ text = rule.complaint c.gateway.requestCost t

theorem mem_order (rule : ConfigRule) : rule ∈ order := by
  cases rule <;> decide

end ConfigRule

/-! ## Computations that check rules -/

/-- a computation succeeds if all of these rules hold, and fails with the complaint of the first that does not -/
structure Checks {β : Type} (c : Config) (x : Except GatewayError β) (rules : List ConfigRule) : Prop where
  succeeds : (∃ b, x = .ok b) ↔ ∀ rule ∈ rules, rule.Holds c
  fails : ∀ e, x = .error e ↔
    ∃ rule text, FirstOffender (·.Holds c) rules rule ∧ rule.Complains c text ∧ e = .badRequest text

namespace Checks

variable {β γ : Type} {c : Config} {rules rules' : List ConfigRule}

/-- one computation after another checks the rules of both, in their order -/
theorem bind {x : Except GatewayError β} {f : β → Except GatewayError γ} (first : Checks c x rules)
    (next : ∀ b, Checks c (f b) rules') : Checks c (x >>= f) (rules ++ rules') := by
  cases done : x with
  | error e =>
    -- a rule of the first part is broken, whatever the others are
    have broken : ¬∀ rule ∈ rules, rule.Holds c := fun all => by
      obtain ⟨b, ok⟩ := first.succeeds.2 all
      rw [done] at ok
      cases ok
    have stops : (Except.error e >>= f) = .error e := rfl
    rw [stops]
    refine ⟨?_, fun e' => ?_⟩
    · simp only [reduceCtorEq, exists_false, false_iff]
      exact fun all => broken fun rule member => all rule (List.mem_append_left _ member)
    · have same : (Except.error e : Except GatewayError γ) = .error e' ↔ (Except.error e : Except GatewayError β) = .error e' := by
        simp
      rw [same, ← done, first.fails e']
      simp only [firstOffender_append_iff, broken, false_and, or_false]
  | ok b =>
    have all : ∀ rule ∈ rules, rule.Holds c := first.succeeds.1 ⟨b, done⟩
    have none : ∀ rule, ¬FirstOffender (·.Holds c) rules rule := by
      intro rule first
      exact first.offends.2 (all rule first.offends.1)
    have rest := next b
    have goes : (Except.ok b >>= f) = f b := rfl
    rw [goes]
    refine ⟨?_, fun e => ?_⟩
    · rw [rest.succeeds]
      simp only [List.mem_append, or_imp, forall_and]
      exact ⟨fun later => ⟨all, later⟩, fun both => both.2⟩
    · rw [rest.fails e]
      simp only [firstOffender_append_iff, none, false_or, and_iff_right all]

/-- a computation that fails with the complaint of one rule, exactly where that is broken -/
theorem single {x : Except GatewayError β} {rule : ConfigRule} (ok : (∃ b, x = .ok b) ↔ rule.Holds c)
    (error : ∀ e, x = .error e ↔ ¬rule.Holds c ∧ ∃ text, rule.Complains c text ∧ e = .badRequest text) :
    Checks c x [rule] where
  succeeds := by simpa using ok
  fails e := by
    rw [error]
    simp only [firstOffender_singleton_iff]
    constructor
    · rintro ⟨broken, text, complains, rfl⟩
      exact ⟨rule, text, ⟨broken, rfl⟩, complains, rfl⟩
    · rintro ⟨rule, text, ⟨broken, rfl⟩, complains, rfl⟩
      exact ⟨broken, text, complains, rfl⟩

/-- a demand checks a rule with one complaint -/
theorem demand {holds : Bool} {text : String} {rule : ConfigRule} (asks : holds = true ↔ rule.Holds c)
    (complains : ¬rule.Holds c → ∀ text', rule.Complains c text' ↔ text' = text) :
    Checks c (demand holds text) [rule] := by
  refine single ?_ fun e => ?_
  · rw [← asks]
    cases holds <;> simp [TenantGateway.demand]
  · cases holds with
    | true => simp [TenantGateway.demand, ← asks]
    | false =>
      have broken : ¬rule.Holds c := fun all => by simpa using asks.2 all
      simp [TenantGateway.demand, broken, complains broken, eq_comm]

end Checks

/-! ## The sections -/

theorem demand_eq_error_iff {holds : Bool} {text : String} {e : GatewayError} :
    demand holds text = .error e ↔ holds = false ∧ e = .badRequest text := by
  cases holds <;> simp [demand, eq_comm]

variable (c : Config)

theorem GatewaySection.checks_validate :
    Checks c c.gateway.validate [.listen, .requestCost, .drainGrace, .bodyLimit, .tenantHeader] := by
  have listen : Checks c (demand c.gateway.address?.isSome _) [.listen] :=
    .demand (by simp [address?, ConfigRule.Holds, Option.isSome_iff_exists]) fun _ _ => Iff.rfl
  have requestCost : Checks c (demand (1 ≤ c.gateway.requestCost) _) [.requestCost] :=
    .demand (by simp [ConfigRule.Holds]) fun _ _ => Iff.rfl
  have drainGrace : Checks c (demand (c.gateway.drainGraceMs ≤ 120000) _) [.drainGrace] :=
    .demand (by simp [ConfigRule.Holds]) fun _ _ => Iff.rfl
  have bodyLimit : Checks c (demand (1 ≤ c.gateway.maxBodyBytes) _) [.bodyLimit] :=
    .demand (by simp [ConfigRule.Holds]) fun _ _ => Iff.rfl
  have tenantHeader : Checks c (demand c.gateway.tenantSource.isUsable
      ("gateway.tenant_source.name is not a valid header name: " ++ c.gateway.tenantSource.headerText)) [.tenantHeader] := by
    refine .demand ?_ ?_
    · cases source : c.gateway.tenantSource with
      | pathPrefix => simp [TenantSource.isUsable, ConfigRule.Holds, source]
      | header name => simp [TenantSource.isUsable, ConfigRule.Holds, source, HeaderName.ofText?]
    · intro broken text
      cases source : c.gateway.tenantSource with
      | pathPrefix => exact absurd (by simp [ConfigRule.Holds, source]) broken
      | header name => simp [ConfigRule.Complains, TenantSource.headerText, source]
  exact listen.bind fun _ => requestCost.bind fun _ => drainGrace.bind fun _ => bodyLimit.bind fun _ => tenantHeader

theorem BackendEndpoint.isWeb_iff (e : BackendEndpoint) : e.isWeb = true ↔ e.OnWeb := by
  unfold isWeb OnWeb Text.startsWith
  rw [Bool.or_eq_true, List.isPrefixOf_iff_prefix, List.isPrefixOf_iff_prefix]

theorem BackendsSection.checks_validate : Checks c c.backends.validate [.timeout, .endpoints] := by
  have timeout : Checks c (demand (100 ≤ c.backends.timeoutMs && c.backends.timeoutMs ≤ 600000) _) [.timeout] :=
    .demand (by simp [ConfigRule.Holds]) fun _ _ => Iff.rfl
  have endpoints : Checks c (c.backends.endpoints.forM fun e =>
      demand e.2.isWeb ("backends." ++ e.1.name ++ ".url must start with http:// or https://")) [.endpoints] := by
    refine .single ?_ fun e => ?_
    · simp only [ConfigRule.Holds, ← mem_endpoints_iff, ← BackendEndpoint.isWeb_iff]
      constructor
      · rintro ⟨⟨⟩, done⟩ category endpoint member
        exact demand_eq_ok_iff.1 (Except.forM_eq_ok_iff.1 done _ member)
      · intro web
        exact ⟨(), Except.forM_eq_ok_iff.2 fun e member => demand_eq_ok_iff.2 (web e.1 e.2 member)⟩
    · rw [Except.forM_eq_error_iff]
      simp only [demand_eq_ok_iff, BackendEndpoint.isWeb_iff, demand_eq_error_iff]
      constructor
      · rintro ⟨⟨category, endpoint⟩, first, -, rfl⟩
        refine ⟨fun holds => ?_, _, ⟨category, endpoint, first, rfl⟩, rfl⟩
        exact first.offends.2 (holds category endpoint ((mem_endpoints_iff ..).1 first.offends.1))
      · rintro ⟨-, text, ⟨category, endpoint, first, rfl⟩, rfl⟩
        refine ⟨(category, endpoint), first, ?_, rfl⟩
        exact eq_false_of_ne_true (mt endpoint.isWeb_iff.1 first.offends.2)
  exact timeout.bind fun _ => endpoints

theorem CredentialsSection.checks_validate : Checks c c.credentials.validate [.skew, .tokenVariable] := by
  have skew : Checks c (demand (c.credentials.refreshSkewSecs ≤ 3600) _) [.skew] :=
    .demand (by simp [ConfigRule.Holds]) fun _ _ => Iff.rfl
  have tokenVariable : Checks c (demand (c.credentials.mode ≠ .static || !Text.isBlankText c.credentials.staticTokenEnv)
      "credentials.static_token_env must name an environment variable") [.tokenVariable] := by
    refine .demand ?_ fun _ _ => Iff.rfl
    simp [ConfigRule.Holds, Text.trim_eq_empty_iff, or_iff_not_imp_left]
  exact skew.bind fun _ => tokenVariable

/-! ## Routes and tenants -/

namespace RouteConfig

/-- what is made of a route -/
def rule (r : RouteConfig) : Except GatewayError RouteRule := RouteRule.make r.pattern r.backend

theorem rule_eq_ok_iff (r : RouteConfig) : (∃ rule, r.rule = .ok rule) ↔ r.Sound := by
  simp [rule, Sound, RouteRule.make_eq_ok_iff]

theorem rule_eq_error_iff (r : RouteConfig) (e : GatewayError) :
    r.rule = .error e ↔ ¬r.Sound ∧ e = .badRequest r.complaint := by
  unfold rule RouteRule.make Sound complaint Category.isMatched
  dsimp only
  by_cases unnamed : Text.trim r.pattern = ""
  · rw [if_pos (String.isEmpty_iff.2 unnamed), if_pos unnamed, Except.error.injEq, @eq_comm GatewayError]
    simp [unnamed]
  · rw [if_neg (mt String.isEmpty_iff.1 unnamed), if_neg unnamed]
    by_cases unmatched : r.backend = .unmatched
    · rw [if_neg (by simp [unmatched]), Except.error.injEq, @eq_comm GatewayError]
      simp [unmatched]
    · simp [unnamed, unmatched]

end RouteConfig

theorem RouteTable.make_eq_error_iff (rules : List RouteRule) (e : GatewayError) :
    make rules = .error e ↔ rules = [] ∧ e = .badRequest "route table must not be empty" := by
  unfold make
  cases rules <;> simp [eq_comm]

namespace RouteConfig

/-- what is made of a list of routes -/
def table (routes : List RouteConfig) : Except GatewayError RouteTable := routes.mapM rule >>= RouteTable.make

theorem table_isOk_iff (routes : List RouteConfig) : (∃ made, table routes = .ok made) ↔ routes ≠ [] ∧ ∀ r ∈ routes, r.Sound := by
  constructor
  · rintro ⟨made, done⟩
    obtain ⟨rules, compiled, tabled⟩ := Except.bind_eq_ok_iff.1 done
    have each := Except.mapM_eq_ok_iff.1 compiled
    refine ⟨?_, fun r member => ?_⟩
    · rintro rfl
      exact ((RouteTable.make_eq_ok_iff rules made).1 tabled).1 (List.forall₂_nil_left_iff.1 each)
    · obtain ⟨rule, -, ruled⟩ := Config.forall₂_exists each member
      exact r.rule_eq_ok_iff.1 ⟨rule, ruled⟩
  · rintro ⟨nonempty, sound⟩
    obtain ⟨rules, each⟩ := Config.exists_forall₂ fun r member => (rule_eq_ok_iff r).2 (sound r member)
    have ruled : rules ≠ [] := by
      rintro rfl
      exact nonempty (List.forall₂_nil_right_iff.1 each)
    have tabled := (RouteTable.make_eq_ok_iff rules _).2 ⟨ruled, rfl⟩
    exact ⟨_, Except.bind_eq_ok_iff.2 ⟨rules, Except.mapM_eq_ok_iff.2 each, tabled⟩⟩

theorem table_eq_error_iff (routes : List RouteConfig) (e : GatewayError) :
    table routes = .error e ↔ (routes = [] ∧ e = .badRequest "route table must not be empty") ∨
      ∃ r, FirstOffender Sound routes r ∧ e = .badRequest r.complaint := by
  constructor
  · intro failed
    rcases Except.bind_eq_error_iff.1 failed with refused | ⟨rules, compiled, empty⟩
    · obtain ⟨r, first, unruled⟩ := Except.mapM_eq_error_iff.1 refused
      simp only [rule_eq_ok_iff] at first
      exact .inr ⟨r, first, ((r.rule_eq_error_iff e).1 unruled).2⟩
    · obtain ⟨rfl, text⟩ := (RouteTable.make_eq_error_iff rules e).1 empty
      exact .inl ⟨List.forall₂_nil_right_iff.1 (Except.mapM_eq_ok_iff.1 compiled), text⟩
  · rintro (⟨rfl, rfl⟩ | ⟨r, first, rfl⟩)
    · rfl
    · have refused := (r.rule_eq_error_iff _).2 ⟨first.offends.2, rfl⟩
      refine Except.bind_eq_error_iff.2 (.inl (Except.mapM_eq_error_iff.2 ⟨r, ?_, refused⟩))
      simpa only [rule_eq_ok_iff] using first

end RouteConfig

namespace Config

theorem checks_routeTable : Checks c c.routeTable [.routes] := by
  cases given : c.routes with
  | none =>
    have standard : c.routeTable = .ok .standard := by rw [routeTable, given]
    refine .single ?_ fun e => ?_
    · simp [standard, ConfigRule.Holds, given]
    · simp [standard, ConfigRule.Holds, given]
  | some routes =>
    have table : c.routeTable = RouteConfig.table routes := by
      rw [routeTable, given]
      rfl
    have holds : ConfigRule.routes.Holds c ↔ routes ≠ [] ∧ ∀ r ∈ routes, r.Sound := by simp [ConfigRule.Holds, given]
    rw [table]
    refine .single ((RouteConfig.table_isOk_iff routes).trans holds.symm) fun e => ?_
    rw [holds]
    constructor
    · intro failed
      rcases (RouteConfig.table_eq_error_iff routes e).1 failed with ⟨rfl, rfl⟩ | ⟨r, first, rfl⟩
      · exact ⟨fun holds => holds.1 rfl, _, .inl ⟨given, rfl⟩, rfl⟩
      · exact ⟨fun holds => first.offends.2 (holds.2 r first.offends.1), _, .inr ⟨routes, r, given, first, rfl⟩, rfl⟩
    · rintro ⟨-, text, ⟨empty, rfl⟩ | ⟨routes', r, given', first, rfl⟩, rfl⟩
      · obtain rfl : routes = [] := Option.some.inj (given.symm.trans empty)
        rfl
      · obtain rfl := Option.some.inj (given.symm.trans given')
        exact (RouteConfig.table_eq_error_iff routes _).2 (.inr ⟨r, first, rfl⟩)

theorem checks_tenants : Checks c (checkTenants c.tenants c.gateway.requestCost) [.tenants] := by
  refine .single ?_ fun e => ?_
  · rw [ConfigRule.Holds, ← checkTenants_eq_ok_iff]
    exact ⟨fun ⟨(), done⟩ => done, fun done => ⟨(), done⟩⟩
  · constructor
    · intro refused
      obtain ⟨front, t, back, rule, split, breach, rfl⟩ := (checkTenants_eq_error_iff ..).1 refused
      refine ⟨fun holds => ?_, _, ⟨front, t, back, rule, split, breach, rfl⟩, rfl⟩
      have accepted := (checkTenants_eq_ok_iff c.tenants c.gateway.requestCost).2 holds
      rw [refused] at accepted
      cases accepted
    · rintro ⟨-, text, ⟨front, t, back, rule, split, breach, rfl⟩, rfl⟩
      exact (checkTenants_eq_error_iff ..).2 ⟨front, t, back, rule, split, breach, rfl⟩

theorem checks_validate : Checks c c.validate ConfigRule.order := by
  have version : Checks c (demand (c.version = 1) ("unsupported config version " ++ toString c.version)) [.version] :=
    .demand (by simp [ConfigRule.Holds]) fun _ _ => Iff.rfl
  have populated : Checks c (demand (!c.tenants.isEmpty) "tenants must not be empty") [.populated] :=
    .demand (by simp [ConfigRule.Holds]) fun _ _ => Iff.rfl
  exact version.bind fun _ => populated.bind fun _ => (GatewaySection.checks_validate c).bind fun _ =>
    (BackendsSection.checks_validate c).bind fun _ => (CredentialsSection.checks_validate c).bind fun _ =>
      (checks_routeTable c).bind fun _ => checks_tenants c

end Config

/-! ## The start -/

namespace Gateway

variable {α : Type} (name : String) (backends : List Category) (sinks : List Sink)

/-- a start with a token source fails where the configuration is not valid, for the same reason, and nowhere else -/
theorem build_eq_error_iff (e : GatewayError) :
    (build c (some name) backends sinks : Except GatewayError (Gateway α)) = .error e ↔ c.validate = .error e := by
  cases validated : c.validate with
  | error e' =>
    have stops : (build c (some name) backends sinks : Except GatewayError (Gateway α)) = .error e' := by
      rw [build, validated]
      rfl
    simp [stops]
  | ok u =>
    obtain ⟨g, built, -⟩ := build_isOk (α := α) validated name backends sinks
    simp [built]

/-- **A configuration is valid exactly if it can be started.** Take any configuration. It is valid if and only if it keeps all the rules;
otherwise what is said is the complaint of the first rule that it breaks, in their order. A valid one has a registry and a table of routes,
so that the gateway starts with any token source, whatever backends and sinks there are; otherwise the start fails with the same
complaint. -/
theorem started_exactly_if_valid :
    (c.validate = .ok () ↔ ∀ rule : ConfigRule, rule.Holds c) ∧
    (∀ e, c.validate = .error e ↔ ∃ rule text,
      FirstOffender (·.Holds c) ConfigRule.order rule ∧ rule.Complains c text ∧ e = .badRequest text) ∧
    (c.validate = .ok () → (∃ registry, Registry.make c.tenants c.gateway.requestCost = .ok registry) ∧
      ∃ routes, c.routeTable = .ok routes) ∧
    ((∃ g : Gateway α, build c (some name) backends sinks = .ok g) ↔ c.validate = .ok ()) ∧
    ∀ e, (build c (some name) backends sinks : Except GatewayError (Gateway α)) = .error e ↔ c.validate = .error e := by
  obtain ⟨succeeds, fails⟩ := c.checks_validate
  refine ⟨?_, fails, ?_, ?_, build_eq_error_iff c name backends sinks⟩
  · have valid : (∃ u, c.validate = .ok u) ↔ c.validate = .ok () := ⟨fun ⟨(), done⟩ => done, fun done => ⟨(), done⟩⟩
    rw [← valid, succeeds]
    exact ⟨fun all rule => all rule rule.mem_order, fun all rule _ => all rule⟩
  · intro valid
    obtain ⟨g, built, -⟩ := build_isOk (α := α) valid name backends sinks
    obtain ⟨-, -, registry, routes, -, made, routed, -⟩ := build_eq_ok_iff.1 built
    exact ⟨⟨registry, made⟩, routes, routed⟩
  · constructor
    · rintro ⟨g, built⟩
      exact (build_eq_ok_iff.1 built).1
    · intro valid
      obtain ⟨g, built, -⟩ := build_isOk (α := α) valid name backends sinks
      exact ⟨g, built⟩

end Gateway

end TenantGateway
