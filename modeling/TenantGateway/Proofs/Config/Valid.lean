/-
What a configuration is that was accepted.

The checks of a configuration run one after another, and `Config.validate_eq_ok_iff` says that none fails exactly if the sections are
valid, the routes make a table and the tenants are accepted. Of the backends this leaves a timeout within its bounds and
endpoints on the web (`BackendsSection.validate_eq_ok_iff`).
-/
import Mathlib.Tactic
import TenantGateway.Config.Validate

namespace TenantGateway

/-! ## Checks that succeed -/

section

variable {ε α β : Type}

theorem Except.bind_eq_ok_iff {x : Except ε α} {f : α → Except ε β} {b : β} :
    (x >>= f) = .ok b ↔ ∃ a, x = .ok a ∧ f a = .ok b := by
  cases x <;> simp [bind, Except.bind]

/-- a check that gives nothing is followed by the rest -/
theorem Except.seq_eq_ok_iff {x : Except ε Unit} {y : Except ε β} {b : β} :
    (do x; y) = .ok b ↔ x = .ok () ∧ y = .ok b := by
  rw [Except.bind_eq_ok_iff]
  exact ⟨fun ⟨(), h⟩ => h, fun h => ⟨(), h⟩⟩

theorem Except.forM_eq_ok_iff {xs : List α} {f : α → Except ε Unit} :
    xs.forM f = .ok () ↔ ∀ x ∈ xs, f x = .ok () := by
  induction xs with
  | nil => simp [pure, Except.pure]
  | cons x xs ih =>
    unfold List.forM
    rw [seq_eq_ok_iff, List.forall_mem_cons, ih]

end

theorem demand_eq_ok_iff {rule : Bool} {text : String} : demand rule text = .ok () ↔ rule = true := by
  cases rule <;> simp [demand]

/-! ## The sections -/

theorem BackendsSection.mem_endpoints_iff (b : BackendsSection) (c : Category) (e : BackendEndpoint) :
    (c, e) ∈ b.endpoints ↔ b.endpoint? c = some e := by
  obtain ⟨timeout, openai, documents⟩ := b
  cases c <;> cases openai <;> cases documents <;> simp [endpoints, endpoint?, eq_comm]

theorem BackendsSection.validate_eq_ok_iff (b : BackendsSection) :
    b.validate = .ok () ↔
      (100 ≤ b.timeoutMs ∧ b.timeoutMs ≤ 600000) ∧ ∀ c e, b.endpoint? c = some e → e.isWeb = true := by
  unfold validate
  rw [Except.seq_eq_ok_iff, demand_eq_ok_iff, Except.forM_eq_ok_iff]
  simp only [demand_eq_ok_iff, Prod.forall, mem_endpoints_iff, Bool.and_eq_true, decide_eq_true_eq]

namespace Config

theorem validate_eq_ok_iff (c : Config) :
    c.validate = .ok () ↔
      c.version = 1 ∧ c.tenants ≠ [] ∧ c.gateway.validate = .ok () ∧ c.backends.validate = .ok () ∧
        c.credentials.validate = .ok () ∧ (∃ table, c.routeTable = .ok table) ∧
        checkTenants c.tenants c.gateway.requestCost = .ok () := by
  unfold validate
  -- all the checks but that of the routes give nothing
  simp only [Except.seq_eq_ok_iff]
  simp only [Except.bind_eq_ok_iff, demand_eq_ok_iff, decide_eq_true_eq, Bool.not_eq_true', List.isEmpty_eq_false_iff,
    exists_and_right, ne_eq]

end Config

end TenantGateway
