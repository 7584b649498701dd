/-
Which fields make a section differ.

`Field` names every field of a configuration outside its tenants, down to the patterns of its routes, and `Config.leaf?` is what a
configuration holds there. A section differs exactly if one of its fields does (`FixedSection.differs_iff`), so that the sections
reported between two configurations are known by their fields (`Config.mem_fixedChanges_iff`).
-/
import Mathlib.Tactic
import TenantGateway.Config.Changes
import TenantGateway.Config.Validate

namespace TenantGateway

namespace FixedSection

/-- a field of a section, and of what is nested in it -/
inductive Field where
  | version
  | listen
  /-- whether a header names the tenant -/
  | tenantInHeader
  | tenantHeader
  | requestCost
  | drainGrace
  | bodyLimit
  | timeout
  | url (category : Category)
  /-- whether the token is fixed -/
  | fixedToken
  | clientId
  | tokenVariable
  | refreshSkew
  /-- whether there are routes instead of the standard ones -/
  | ownRoutes
  | pattern (position : ℕ)
  | target (position : ℕ)
  deriving DecidableEq

/-- the section that a field belongs to -/
def Field.home : Field → FixedSection
  | version => .version
  | listen | tenantInHeader | tenantHeader | requestCost | drainGrace | bodyLimit => .gateway
  | timeout | url _ => .backends
  | fixedToken | clientId | tokenVariable | refreshSkew => .credentials
  | ownRoutes | pattern _ | target _ => .routes

end FixedSection

/-- what a field can hold -/
inductive Leaf where
  | number (n : ℕ)
  | text (s : String)
  | flag (b : Bool)
  | category (c : Category)
  deriving DecidableEq

namespace Config

/-- what a configuration holds in a field, if it holds anything there -/
def leaf? (c : Config) : FixedSection.Field → Option Leaf
  | .version => some (.number c.version)
  | .listen => some (.text c.gateway.listen)
  | .tenantInHeader => some (.flag (c.gateway.tenantSource ≠ .pathPrefix))
  | .tenantHeader => some (.text c.gateway.tenantSource.headerText)
  | .requestCost => some (.number c.gateway.requestCost)
  | .drainGrace => some (.number c.gateway.drainGraceMs)
  | .bodyLimit => some (.number c.gateway.maxBodyBytes)
  | .timeout => some (.number c.backends.timeoutMs)
  | .url category => (c.backends.endpoint? category).map fun e => .text e.url
  | .fixedToken => some (.flag (c.credentials.mode = .static))
  | .clientId => c.credentials.clientId.map .text
  | .tokenVariable => some (.text c.credentials.staticTokenEnv)
  | .refreshSkew => some (.number c.credentials.refreshSkewSecs)
  | .ownRoutes => some (.flag c.routes.isSome)
  | .pattern i => (c.routes.getD [])[i]?.map fun r => .text r.pattern
  | .target i => (c.routes.getD [])[i]?.map fun r => .category r.backend

end Config

attribute [ext] GatewaySection BackendsSection BackendEndpoint CredentialsSection RouteConfig

/-! ## Sections and their fields -/

namespace FixedSection

/-- all the fields of a section hold the same -/
def SameFields (s : FixedSection) (a b : Config) : Prop :=
  ∀ f : Field, f.home = s → a.leaf? f = b.leaf? f

variable {a b : Config}

theorem gateway_eq_of_sameFields (same : SameFields .gateway a b) : a.gateway = b.gateway := by
  have mode := same .tenantInHeader rfl
  have header := same .tenantHeader rfl
  have source : a.gateway.tenantSource = b.gateway.tenantSource := by
    cases left : a.gateway.tenantSource <;> cases right : b.gateway.tenantSource <;>
      simp_all [Config.leaf?, TenantSource.headerText]
  exact GatewaySection.ext (by simpa [Config.leaf?] using same .listen rfl) source
    (by simpa [Config.leaf?] using same .requestCost rfl) (by simpa [Config.leaf?] using same .drainGrace rfl)
    (by simpa [Config.leaf?] using same .bodyLimit rfl)

theorem backends_eq_of_sameFields (same : SameFields .backends a b) : a.backends = b.backends := by
  have url : Function.Injective fun e : BackendEndpoint => Leaf.text e.url :=
    fun e e' texts => BackendEndpoint.ext (Leaf.text.inj texts)
  have endpoint (c : Category) : a.backends.endpoint? c = b.backends.endpoint? c :=
    Option.map_injective url (same (.url c) rfl)
  exact BackendsSection.ext (by simpa [Config.leaf?] using same .timeout rfl) (endpoint .openai)
    (endpoint .documentIntelligence)

theorem credentials_eq_of_sameFields (same : SameFields .credentials a b) : a.credentials = b.credentials := by
  have fixed := same .fixedToken rfl
  have mode : a.credentials.mode = b.credentials.mode := by
    cases left : a.credentials.mode <;> cases right : b.credentials.mode <;> simp_all [Config.leaf?]
  exact CredentialsSection.ext mode (Option.map_injective (fun _ _ => Leaf.text.inj) (same .clientId rfl))
    (by simpa [Config.leaf?] using same .tokenVariable rfl) (by simpa [Config.leaf?] using same .refreshSkew rfl)

theorem routes_eq_of_sameFields (same : SameFields .routes a b) : a.routes = b.routes := by
  have own : a.routes.isSome = b.routes.isSome := by simpa [Config.leaf?] using same .ownRoutes rfl
  have listed : a.routes.getD [] = b.routes.getD [] := by
    refine List.ext_getElem? fun i => ?_
    have pattern := same (.pattern i) rfl
    have target := same (.target i) rfl
    unfold Config.leaf? at pattern target
    dsimp only at pattern target
    cases left : (a.routes.getD [])[i]? <;> cases right : (b.routes.getD [])[i]? <;>
      simp_all [RouteConfig.ext_iff]
  cases left : a.routes <;> cases right : b.routes <;> simp_all

/-- a section is the same exactly if all its fields are -/
theorem differs_eq_false_iff (s : FixedSection) (a b : Config) : s.differs a b = false ↔ s.SameFields a b := by
  constructor
  · rintro same f rfl
    cases f <;> simp_all [differs, Field.home, Config.leaf?]
  · intro same
    cases s with
    | version => simpa [differs, Config.leaf?] using same .version rfl
    | gateway => simpa [differs] using gateway_eq_of_sameFields same
    | backends => simpa [differs] using backends_eq_of_sameFields same
    | credentials => simpa [differs] using credentials_eq_of_sameFields same
    | routes => simpa [differs] using routes_eq_of_sameFields same

/-- a section differs exactly if one of its fields does -/
theorem differs_iff (s : FixedSection) (a b : Config) :
    s.differs a b = true ↔ ∃ f : Field, f.home = s ∧ a.leaf? f ≠ b.leaf? f := by
  have same := not_congr (differs_eq_false_iff s a b)
  simpa [SameFields] using same

end FixedSection

namespace Config

theorem mem_fixedChanges_iff (a b : Config) (s : FixedSection) :
    s ∈ a.fixedChanges b ↔ ∃ f : FixedSection.Field, f.home = s ∧ a.leaf? f ≠ b.leaf? f := by
  have listed : s ∈ FixedSection.all := by cases s <;> decide
  rw [fixedChanges, List.mem_filter, FixedSection.differs_iff]
  exact and_iff_right listed

/-- the sections are reported in one order, each at most once -/
theorem fixedChanges_sublist (a b : Config) : (a.fixedChanges b).Sublist FixedSection.all :=
  List.filter_sublist

/-- where no section differs, nothing but the tenants does -/
theorem fixedChanges_eq_nil_iff (a b : Config) : a.fixedChanges b = [] ↔ { a with tenants := b.tenants } = b := by
  obtain ⟨version, gateway, backends, credentials, routes, tenants⟩ := a
  obtain ⟨version', gateway', backends', credentials', routes', tenants'⟩ := b
  simp [fixedChanges, FixedSection.all, FixedSection.differs]

end Config

end TenantGateway
