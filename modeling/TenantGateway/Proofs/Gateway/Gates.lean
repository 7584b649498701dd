/-
Running gates, and what a call to the outside comes to without a time limit.

`Gate.runOn` is a gate run on a flight; it takes gates apart at every step, so that the lemmas about single gates need no
monad. `Call.ending_unlimited` says how a call ends that only the answer and the caller can end.
-/
import Mathlib.Tactic
import TenantGateway.Gateway.Handle

namespace TenantGateway

/-! ## Gates on flights -/

namespace Gate

variable {α W β γ : Type}

/-- what a gate comes to on a flight, and the flight after it -/
def runOn (x : Gate α W β) (f : Flight α W) : Except GatewayError β × Flight α W :=
  (ExceptT.run x) f

theorem runOn_pure (b : β) (f : Flight α W) : (pure b : Gate α W β).runOn f = (.ok b, f) := rfl

theorem runOn_throw (e : GatewayError) (f : Flight α W) : (throw e : Gate α W β).runOn f = (.error e, f) := rfl

theorem runOn_get (f : Flight α W) : (get : Gate α W (Flight α W)).runOn f = (.ok f, f) := rfl

theorem runOn_set (f f' : Flight α W) : (set f' : Gate α W PUnit).runOn f = (.ok ⟨⟩, f') := rfl

theorem runOn_bind (x : Gate α W β) (k : β → Gate α W γ) (f : Flight α W) :
    (x >>= k).runOn f =
      match x.runOn f with
      | (.ok b, f) => (k b).runOn f
      | (.error e, f) => (.error e, f) := by
  have hand : (x >>= k).runOn f = (fun p => ExceptT.bindCont k p.1 p.2) (x.runOn f) := rfl
  rw [hand]
  rcases x.runOn f with ⟨e | b, f'⟩ <;> rfl

theorem runOn_bind_ok {x : Gate α W β} {k : β → Gate α W γ} {f f' : Flight α W} {b : β} (h : x.runOn f = (.ok b, f')) :
    (x >>= k).runOn f = (k b).runOn f' := by
  rw [runOn_bind, h]

theorem runOn_bind_error {x : Gate α W β} {k : β → Gate α W γ} {f f' : Flight α W} {e : GatewayError}
    (h : x.runOn f = (.error e, f')) : (x >>= k).runOn f = (.error e, f') := by
  rw [runOn_bind, h]

theorem runOn_ofExcept (r : Except GatewayError β) (f : Flight α W) : (ofExcept r : Gate α W β).runOn f = (r, f) := by
  cases r <;> rfl

theorem runOn_note (h : RequestContext → RequestContext) (f : Flight α W) :
    (note h : Gate α W Unit).runOn f = (.ok (), { f with context := h f.context }) := rfl

theorem runOn_advance (s : Stage) (f : Flight α W) :
    (advance s : Gate α W Unit).runOn f =
      (.ok (), { f with
        context := f.context.advance s
        moves := f.moves ++ [(s, (f.context.stage.advance s).2)] }) := rfl

theorem runOn_depart (leaves : Bool) (f : Flight α W) :
    (depart leaves : Gate α W Unit).runOn f = (.ok (), { f with cancelled := f.cancelled || leaves }) := rfl

theorem runOn_ite (c : Prop) [Decidable c] (x y : Gate α W β) (f : Flight α W) :
    (if c then x else y).runOn f = if c then x.runOn f else y.runOn f := by
  split <;> rfl

theorem runOn_unlessCancelled (f : Flight α W) :
    (unlessCancelled : Gate α W Unit).runOn f = (if f.cancelled then .error .clientClosed else .ok (), f) := by
  unfold unlessCancelled
  rw [runOn_bind, runOn_get]
  simp only [runOn_ite, runOn_throw, runOn_pure]
  split <;> rfl

theorem runOn_unless_left {f : Flight α W} (left : f.cancelled = true) (k : Unit → Gate α W β) :
    (unlessCancelled >>= k).runOn f = (.error .clientClosed, f) := by
  refine runOn_bind_error ?_
  rw [runOn_unlessCancelled, left]
  rfl

theorem runOn_unless_here {f : Flight α W} (here : f.cancelled = false) (k : Unit → Gate α W β) :
    (unlessCancelled >>= k).runOn f = (k ()).runOn f := by
  refine runOn_bind_ok ?_
  rw [runOn_unlessCancelled, here]
  rfl

end Gate

theorem Gateway.handle_eq {α W : Type} [Quantity α] (o : Outside W) (g : Gateway α) (world : W) (now : ℕ)
    (requestId : String) (caller : Caller) (r : Inbound) :
    g.handle o world now requestId caller r =
      match (Gate.pass o caller r.body).runOn (g.receive world now requestId caller r) with
      | (.ok answer, f) => (.ok (f.context.reply answer), f.complete answer)
      | (.error e, f) => (.error (f.context.errorReply e), f.fail e) := rfl

/-! ## Calls without a time limit -/

namespace Call

variable {α : Type}

/-- whether the caller leaves before the answer is there, or there is none -/
def isAbandoned (c : Call α) : Bool :=
  c.delay ≠ some 0 && noLater c.cancelAfter c.delay

/-- how long it takes until the answer is there or the caller leaves -/
def span (c : Call α) : ℕ :=
  if c.isAbandoned then c.cancelAfter.getD 0 else c.delay.getD 0

theorem noLater_none (a : Option ℕ) : noLater a none = true := by
  cases a <;> rfl

theorem ending_unlimited (c : Call α) :
    c.ending none = (if c.isAbandoned then .cancelled else .answered c.answer, c.span) := by
  have unlimited : earlier c.delay none = c.delay := by
    rw [earlier, noLater_none, if_pos rfl]
  unfold ending span isAbandoned
  rw [unlimited, noLater_none, earlier]
  by_cases now : c.delay = some 0
  · simp [now]
  · cases h : noLater c.cancelAfter c.delay <;> simp [now]

end Call

/-! ## Reloads -/

namespace Gateway

variable {α : Type} [Quantity α]

theorem reload_settings (g : Gateway α) (c : Config) : (g.reload c).1.settings = g.settings := by
  unfold reload
  cases g.registry.reload c.tenants <;> rfl

theorem reload_cache (g : Gateway α) (c : Config) : (g.reload c).1.cache = g.cache := by
  unfold reload
  cases g.registry.reload c.tenants <;> rfl

theorem reloadAll_settings (g : Gateway α) (cs : List Config) : (g.reloadAll cs).settings = g.settings := by
  induction cs generalizing g with
  | nil => rfl
  | cons c cs ih => exact (ih _).trans (reload_settings g c)

theorem reloadAll_cache (g : Gateway α) (cs : List Config) : (g.reloadAll cs).cache = g.cache := by
  induction cs generalizing g with
  | nil => rfl
  | cons c cs ih => exact (ih _).trans (reload_cache g c)

theorem reload_withCache (g : Gateway α) (cache : CredentialCache) (c : Config) :
    ({ g with cache }.reload c).1 = { (g.reload c).1 with cache } := by
  unfold reload
  dsimp only
  cases g.registry.reload c.tenants <;> rfl

/-- reloads and the cache have nothing to do with each other -/
theorem reloadAll_withCache (g : Gateway α) (cache : CredentialCache) (cs : List Config) :
    { g with cache }.reloadAll cs = { g.reloadAll cs with cache } := by
  induction cs generalizing g with
  | nil => rfl
  | cons c cs ih =>
    have step := reload_withCache g cache c
    exact (congrArg (reloadAll · cs) step).trans (ih _)

end Gateway

end TenantGateway
