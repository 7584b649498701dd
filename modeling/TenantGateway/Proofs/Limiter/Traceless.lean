/-
Checks that leave no trace (levels read as rationals).

`standing` is what a tenant's bucket comes to at an instant, or the full one that would be made then, and a request is decided on
it alone (`ask_answer`, `ask_bucket`). Two meters are level at an instant (`Level`) if every tenant stands the same in both. They
stay level as time goes on (`Level.later`): filling in several steps is filling once, and a full bucket stays full. A look at a
balance and a throttled request change no standing, so one meter may be spared them (`Level.traceless`); any other use keeps both
level, and a request is answered by both alike (`Level.kept`).
- `answers_of_thinned`: leave throttled requests and looks out of a run, and every request that is left gets the answer it got.
-/
import TenantGateway.Proofs.Limiter.Isolation
import TenantGateway.Proofs.Limiter.Waiting

namespace TenantGateway

namespace Meter

open Bucket

/-! ## Runs of checks -/

/-- the clock reading of a request or a look -/
def Use.instant? : Use → Option ℤ
  | .ask _ _ now | .peek _ now => some now
  | .sync _ | .reload _ => none

/-- whether a use asks for tokens -/
def Use.isAsk : Use → Bool
  | .ask .. => true
  | _ => false

/-- a use that may be left out of a run: a look at a balance, or a request that was throttled -/
inductive Traceless : Use × Answer → Prop
  | looked (id : String) (now : ℤ) (answer : Answer) : Traceless (.peek id now, answer)
  | throttled (t : Tenant) (cost : ℕ) (now : ℤ) (remaining wait : ℕ) :
      Traceless (.ask t cost now, .admission (.throttled remaining wait))

/-- a log from which any of the traceless uses are left out -/
inductive Thinned : List (Use × Answer) → List (Use × Answer) → Prop
  | nil : Thinned [] []
  | kept (e : Use × Answer) {log rest : List (Use × Answer)} (thinned : Thinned log rest) : Thinned (e :: log) (e :: rest)
  | left {e : Use × Answer} (traceless : Traceless e) {log rest : List (Use × Answer)} (thinned : Thinned log rest) :
      Thinned (e :: log) rest

/-- requests and looks alone, in the order of their clock readings, with one budget for each tenant -/
structure Steady (m : Meter ℚ) (budget : String → Option ℕ) (us : List Use) : Prop where
  checks : ∀ u ∈ us, u.instant?.isSome
  ordered : (us.filterMap Use.instant?).Pairwise (· ≤ ·)
  asked : ∀ t cost now, .ask t cost now ∈ us → Limiter.liveBudget m.authority t = budget t.id
  held : ∀ id b n, m.bucket? id = some b → budget id = some n → b.capacity = capacityOf n

theorem log_eq_zip (m : Meter ℚ) (us : List Use) : m.log us = us.zip ((m.log us).map Prod.snd) := by
  induction us generalizing m with
  | nil => rfl
  | cons u us ih =>
    rw [log_cons, List.map_cons, List.zip_cons_cons, ← ih]

/-! ## Standing -/

/-- a meter whose buckets are sound and have the budgets they should have -/
structure Fits (m : Meter ℚ) (budget : String → Option ℕ) : Prop where
  sound : m.Sound
  capacity : ∀ id b n, m.bucket? id = some b → budget id = some n → b.capacity = capacityOf n

/-- the bucket on which a request of a tenant is decided at an instant -/
def standing (m : Meter ℚ) (id : String) (budget : ℕ) (now : ℤ) : Bucket ℚ :=
  (m.limiter.purse id budget now).refill now

variable {m m' : Meter ℚ} {budget : String → Option ℕ} {id : String} {b : Bucket ℚ} {n cost : ℕ} {t : Tenant} {now now' : ℤ}

theorem standing_of_none (none : m.bucket? id = none) (n : ℕ) (now : ℤ) : m.standing id n now = full n now := by
  have made : m.limiter.purse id n now = full n now := by
    rw [Limiter.purse, show m.limiter.buckets.get? id = Option.none from none]
    exact (sound_full n now).reconfigure_self rfl
  rw [standing, made]
  exact refill_self (full n now)

theorem Fits.standing_of_some (fits : m.Fits budget) (hb : m.bucket? id = some b) (live : budget id = some n) (now : ℤ) :
    m.standing id n now = b.refill now := by
  rw [standing, purse_eq fits.sound hb (fits.capacity id b n hb live)]

/-- a full bucket stays full -/
theorem refill_full (n : ℕ) (forward : now ≤ now') : (full n now : Bucket ℚ).refill now' = full n now' := by
  have sound := sound_full n now
  have level : ((full n now).refill now').tokens = (capacityOf n : ℚ) := by
    have positive : (0 : ℚ) ≤ capacityOf n := zero_le_one.trans sound.one_le
    have earned : 0 ≤ secondsTo now now' * ((capacityOf n : ℚ) / 60) :=
      mul_nonneg (secondsTo_nonneg now now') (div_nonneg positive (by norm_num))
    rw [refill_tokens sound]
    exact min_eq_right (le_add_of_nonneg_right earned)
  have last : ((full n now : Bucket ℚ).refill now').last = now' := by
    rw [refill_last]
    exact max_eq_right forward
  exact eq_of_parts (refill_capacity _ now') level last

theorem Fits.standing_later (fits : m.Fits budget) (live : budget id = some n) (forward : now ≤ now') :
    m.standing id n now' = (m.standing id n now).refill now' := by
  cases hb : m.bucket? id with
  | none =>
    rw [standing_of_none hb, standing_of_none hb]
    exact (refill_full n forward).symm
  | some b =>
    rw [fits.standing_of_some hb live, fits.standing_of_some hb live, (fits.sound id b hb).refill_refill, max_eq_right forward]

theorem refill_standing (hm : m.Sound) (id : String) (n : ℕ) (now : ℤ) :
    (m.standing id n now).refill now = m.standing id n now := by
  rw [standing, (sound_purse hm id n now).refill_refill, max_self]

/-- a request is answered from the standing of its tenant -/
theorem ask_answer (hm : m.Sound) (live : Limiter.liveBudget m.authority t = some n) (cost : ℕ) (now : ℤ) :
    (m.step (.ask t cost now)).2 = .admission ((m.standing t.id n now).tryTake cost now).2 := by
  rw [ask_of_budget live, standing, (sound_purse hm t.id n now).tryTake_refill, max_self]

/-- and so is the bucket that it leaves -/
theorem ask_bucket (hm : m.Sound) (live : Limiter.liveBudget m.authority t = some n) (cost : ℕ) (now : ℤ) :
    (m.step (.ask t cost now)).1.bucket? t.id = some ((m.standing t.id n now).tryTake cost now).1 := by
  rw [bucket?_ask, if_pos rfl, live, standing, (sound_purse hm t.id n now).tryTake_refill, max_self]

/-! ## One use -/

theorem check_registry {u : Use} (check : u.instant?.isSome) : (m.step u).1.registry = m.registry := by
  cases u with
  | ask t cost now => rfl
  | peek id now => rfl
  | sync s => cases check
  | reload tenants => cases check

/-- requests and looks leave every bucket the budget it has -/
theorem Fits.step (fits : m.Fits budget) {u : Use} (check : u.instant?.isSome)
    (asked : ∀ t cost now, u = .ask t cost now → Limiter.liveBudget m.authority t = budget t.id) :
    (m.step u).1.Fits budget := by
  refine ⟨step_sound fits.sound u, ?_⟩
  intro id b' n hb' live
  cases u with
  | ask t cost now =>
    rw [bucket?_ask] at hb'
    split_ifs at hb' with same
    · subst same
      rw [asked t cost now rfl, live] at hb'
      obtain rfl := Option.some.inj hb'
      exact tryTake_capacity _ cost now
    · exact fits.capacity id b' n hb' live
  | peek j now =>
    rw [bucket?_peek] at hb'
    split_ifs at hb' with same
    · obtain ⟨b, hb, rfl⟩ := Option.map_eq_some_iff.1 hb'
      exact (refill_capacity b now).trans (fits.capacity id b n hb live)
    · exact fits.capacity id b' n hb' live
  | sync s => cases check
  | reload tenants => cases check

/-- a look changes no standing -/
theorem Fits.standing_peek (fits : m.Fits budget) (live : budget id = some n) (j : String) (now : ℤ) :
    (m.step (.peek j now)).1.standing id n now = m.standing id n now := by
  have after : (m.step (.peek j now)).1.Fits budget := fits.step rfl nofun
  have view : (m.step (.peek j now)).1.bucket? id = _ := bucket?_peek m j now
  cases hb : m.bucket? id with
  | none =>
    rw [hb, Option.map_none, ite_self] at view
    rw [standing_of_none view, standing_of_none hb]
  | some b =>
    rw [hb] at view
    split_ifs at view with same
    · rw [after.standing_of_some view live, fits.standing_of_some hb live, (fits.sound id b hb).refill_refill, max_self]
    · rw [after.standing_of_some view live, fits.standing_of_some hb live]

/-- a request changes the standing of its own tenant alone -/
theorem standing_ask_other (other : id ≠ t.id) (cost : ℕ) (now : ℤ) :
    (m.step (.ask t cost now)).1.standing id n now = m.standing id n now := by
  have view : (m.step (.ask t cost now)).1.bucket? id = _ := bucket?_ask m t cost now
  rw [if_neg other] at view
  rw [standing, standing, Limiter.purse, Limiter.purse,
    show (m.step (.ask t cost now)).1.limiter.buckets.get? id = m.limiter.buckets.get? id from view]

/-- what a request makes of the standing of its own tenant -/
theorem Fits.standing_ask (fits : m.Fits budget) (asked : Limiter.liveBudget m.authority t = budget t.id)
    (live : budget t.id = some n) (cost : ℕ) (now : ℤ) :
    (m.step (.ask t cost now)).1.standing t.id n now = ((m.standing t.id n now).tryTake cost now).1 := by
  have after : (m.step (.ask t cost now)).1.Fits budget := by
    refine fits.step rfl fun t' cost' now' same => ?_
    cases same
    exact asked
  have held := ask_bucket fits.sound (asked.trans live) cost now
  have settled : now ≤ ((m.standing t.id n now).tryTake cost now).1.last := by
    rw [tryTake_last]
    exact le_max_right _ _
  rw [after.standing_of_some held live]
  exact if_pos settled

/-- a throttled request changes nothing -/
theorem Fits.standing_throttled (fits : m.Fits budget) (asked : Limiter.liveBudget m.authority t = budget t.id)
    (live : budget t.id = some n) {remaining wait : ℕ}
    (throttled : (m.step (.ask t cost now)).2 = .admission (.throttled remaining wait)) :
    (m.step (.ask t cost now)).1.standing t.id n now = m.standing t.id n now := by
  rw [ask_answer fits.sound (asked.trans live), Answer.admission.injEq] at throttled
  have free : ((m.standing t.id n now).tryTake cost now).2.charged cost = 0 := by
    rw [throttled]
    rfl
  rw [fits.standing_ask asked live, tryTake_of_free free, refill_standing fits.sound]

/-! ## Two meters -/

/-- two meters in which every tenant stands the same at an instant -/
structure Level (m m' : Meter ℚ) (budget : String → Option ℕ) (now : ℤ) : Prop where
  registry : m.registry = m'.registry
  fits : m.Fits budget
  fits' : m'.Fits budget
  same : ∀ id n, budget id = some n → m.standing id n now = m'.standing id n now

theorem Level.refl (fits : m.Fits budget) (now : ℤ) : Level m m budget now :=
  ⟨rfl, fits, fits, fun _ _ _ => rfl⟩

theorem Level.authority (level : Level m m' budget now) : m.authority = m'.authority :=
  congrArg (Option.map Registry.current) level.registry

/-- time goes on for both alike -/
theorem Level.later (level : Level m m' budget now) (forward : now ≤ now') : Level m m' budget now' := by
  refine ⟨level.registry, level.fits, level.fits', ?_⟩
  intro id n live
  rw [level.fits.standing_later live forward, level.fits'.standing_later live forward, level.same id n live]

/-- one meter may take a traceless use that the other is spared -/
theorem Level.traceless (level : Level m m' budget now) {u : Use} (instant : u.instant? = some now)
    (asked : ∀ t cost now, u = .ask t cost now → Limiter.liveBudget m.authority t = budget t.id)
    (traceless : Traceless (u, (m.step u).2)) : Level (m.step u).1 m' budget now := by
  have check : u.instant?.isSome := instant ▸ rfl
  refine ⟨(check_registry check).trans level.registry, level.fits.step check asked, level.fits', ?_⟩
  intro id n live
  rw [← level.same id n live]
  cases u with
  | ask t cost r =>
    obtain rfl : r = now := Option.some.inj instant
    generalize answered : (m.step (.ask t cost r)).2 = answer at traceless
    cases traceless with
    | throttled _ _ _ remaining wait =>
      by_cases own : id = t.id
      · subst own
        exact level.fits.standing_throttled (asked t cost r rfl) live answered
      · exact standing_ask_other own cost r
  | peek j r =>
    obtain rfl : r = now := Option.some.inj instant
    exact level.fits.standing_peek live j r
  | sync s => cases instant
  | reload tenants => cases instant

/-- a use that both take keeps them level, and a request is answered by both alike -/
theorem Level.kept (level : Level m m' budget now) {u : Use} (instant : u.instant? = some now)
    (asked : ∀ t cost now, u = .ask t cost now → Limiter.liveBudget m.authority t = budget t.id) :
    Level (m.step u).1 (m'.step u).1 budget now ∧ (u.isAsk → (m.step u).2 = (m'.step u).2) := by
  have check : u.instant?.isSome := instant ▸ rfl
  have asked' : ∀ t cost now, u = .ask t cost now → Limiter.liveBudget m'.authority t = budget t.id := by
    rw [← level.authority]
    exact asked
  have registry : (m.step u).1.registry = (m'.step u).1.registry := by
    rw [check_registry check, check_registry check, level.registry]
  have fits := level.fits.step check asked
  have fits' := level.fits'.step check asked'
  cases u with
  | ask t cost r =>
    obtain rfl : r = now := Option.some.inj instant
    have budget := asked t cost r rfl
    have budget' := asked' t cost r rfl
    refine ⟨⟨registry, fits, fits', ?_⟩, ?_⟩
    · intro id n live
      by_cases own : id = t.id
      · subst own
        rw [level.fits.standing_ask budget live, level.fits'.standing_ask budget' live, level.same _ n live]
      · rw [standing_ask_other own, standing_ask_other own, level.same id n live]
    · intro _
      cases live : Limiter.liveBudget m.authority t with
      | none => rw [ask_of_no_budget live, ask_of_no_budget (level.authority ▸ live)]
      | some n =>
        have same := level.same t.id n (budget.symm.trans live)
        rw [ask_answer level.fits.sound live, ask_answer level.fits'.sound (level.authority ▸ live), same]
  | peek j r =>
    obtain rfl : r = now := Option.some.inj instant
    refine ⟨⟨registry, fits, fits', ?_⟩, nofun⟩
    intro id n live
    rw [level.fits.standing_peek live, level.fits'.standing_peek live, level.same id n live]
  | sync s => cases instant
  | reload tenants => cases instant

/-! ## Runs -/

theorem Steady.fits {us : List Use} (steady : m.Steady budget us) (hm : m.Sound) : m.Fits budget :=
  ⟨hm, steady.held⟩

/-- the first use of a run finds the budget of its tenant -/
theorem Steady.head_asked {u : Use} {us : List Use} (steady : m.Steady budget (u :: us)) :
    ∀ t cost now, u = .ask t cost now → Limiter.liveBudget m.authority t = budget t.id :=
  fun t cost now first => steady.asked t cost now (first ▸ List.mem_cons_self)

theorem Steady.tail {u : Use} {us : List Use} (steady : m.Steady budget (u :: us)) (hm : m.Sound) :
    (m.step u).1.Steady budget us := by
  have check : u.instant?.isSome := steady.checks u List.mem_cons_self
  have authority : (m.step u).1.authority = m.authority := congrArg (Option.map Registry.current) (check_registry check)
  refine ⟨?_, ?_, ?_, ?_⟩
  · intro v hv
    exact steady.checks v (List.mem_cons_of_mem u hv)
  · exact steady.ordered.sublist ((List.sublist_cons_self u us).filterMap _)
  · intro t cost now member
    rw [authority]
    exact steady.asked t cost now (List.mem_cons_of_mem u member)
  · exact ((steady.fits hm).step check steady.head_asked).capacity

/-- all instants of a run are those of its first use or later ones -/
theorem Steady.head_le {u : Use} {us : List Use} (steady : m.Steady budget (u :: us)) (instant : u.instant? = some now) :
    ∀ r ∈ us.filterMap Use.instant?, now ≤ r := by
  have ordered := steady.ordered
  rw [List.filterMap_cons_some instant, List.pairwise_cons] at ordered
  exact ordered.1

/-- of two meters that are level one takes a run, and the other the same run thinned -/
theorem Level.log_thinned {us : List Use} {since : ℤ} (level : Level m m' budget since) (steady : m.Steady budget us)
    (begun : ∀ r ∈ us.filterMap Use.instant?, since ≤ r) {kept : List (Use × Answer)} (thinned : Thinned (m.log us) kept) :
    (m'.log (kept.map Prod.fst)).filter (·.1.isAsk) = kept.filter (·.1.isAsk) := by
  induction us generalizing m m' since kept with
  | nil =>
    cases thinned
    rfl
  | cons u us ih =>
    obtain ⟨now, instant⟩ := Option.isSome_iff_exists.1 (steady.checks u List.mem_cons_self)
    have forward : since ≤ now := begun now (List.mem_filterMap.2 ⟨u, List.mem_cons_self, instant⟩)
    have tail := steady.tail level.fits.sound
    have begun' := steady.head_le instant
    generalize entry : (u, (m.step u).2) = e at thinned
    rw [log_cons, entry] at thinned
    cases thinned with
    | kept _ thinned =>
      subst entry
      obtain ⟨level', answer⟩ := (level.later forward).kept instant steady.head_asked
      have rest := ih level' tail begun' thinned
      rw [List.map_cons, log_cons, List.filter_cons, List.filter_cons]
      cases asks : u.isAsk with
      | true => rw [if_pos rfl, if_pos rfl, rest, answer asks]
      | false => rw [if_neg Bool.false_ne_true, if_neg Bool.false_ne_true, rest]
    | left traceless thinned =>
      subst entry
      have level' := (level.later forward).traceless instant steady.head_asked traceless
      exact ih level' tail begun' thinned

/-- **Throttled checks and looks leave no trace.** Take any reachable limiter, bound to a registry or not, and from there any
run of requests and looks at balances in the order of their clock readings, throughout which every tenant has one budget. Leave
out of it any of the requests that were throttled and any of the looks: every request that is left gets the answer it got, with
the same tokens remaining and the same wait. -/
theorem answers_of_thinned (registry : Option Registry) (before : List Use) (budget : String → Option ℕ) (us : List Use)
    (steady : ((start registry : Meter ℚ).run before).Steady budget us) (kept : List (Use × Answer))
    (part : Thinned (((start registry : Meter ℚ).run before).log us) kept) :
    let m : Meter ℚ := (start registry).run before
    (m.log (kept.map Prod.fst)).filter (·.1.isAsk) = kept.filter (·.1.isAsk) := by
  intro m
  have sound : m.Sound := run_sound (sound_start registry) before
  have level (now : ℤ) : Level m m budget now := .refl (steady.fits sound) now
  cases us with
  | nil =>
    cases part
    rfl
  | cons u us =>
    obtain ⟨now, instant⟩ := Option.isSome_iff_exists.1 (steady.checks u List.mem_cons_self)
    refine (level now).log_thinned steady ?_ part
    rw [List.filterMap_cons_some instant]
    exact List.forall_mem_cons.2 ⟨le_rfl, steady.head_le instant⟩

/-- two tenants that ask for too much at first, with looks at their balances in between -/
def clumsy : List Use :=
  [.peek "t" 1000000000, .ask { payer 3 with id := "other" } 4 2000000000, .ask (payer 60) 20 3000000000,
    .peek "t" 3500000000, .ask (payer 60) 14 4500000000, .ask { payer 3 with id := "other" } 3 5000000000,
    .ask (payer 60) 1 5000000000]

/-- what they are answered -/
def clumsyAnswers : List Answer :=
  [.balance (some 11), .admission (.throttled 3 20), .admission (.throttled 13 7), .balance (some 13),
    .admission (.admitted 0), .admission (.admitted 0), .admission (.admitted 0)]

/-- the budgets that they have throughout -/
def clumsyBudgets (id : String) : Option ℕ :=
  if id = "t" then some 60 else some 3

/-- what is left of the run without the second look and the requests that were throttled -/
def clumsyRest : List (Use × Answer) :=
  [(.peek "t" 1000000000, .balance (some 11)), (.ask (payer 60) 14 4500000000, .admission (.admitted 0)),
    (.ask { payer 3 with id := "other" } 3 5000000000, .admission (.admitted 0)),
    (.ask (payer 60) 1 5000000000, .admission (.admitted 0))]

/-- **Two clumsy tenants.** One of them comes to its bucket by a request that is throttled. Without that request, the other's
throttled one and a look, both get what they got: the last request is paid from half a token that was left and half a token that
has come in since. -/
theorem answers_of_thinned_clumsy :
    let m : Meter ℚ := (start none).run [.ask (payer 60) 50 0]
    m.Steady clumsyBudgets clumsy ∧ Thinned (m.log clumsy) clumsyRest ∧
    (m.log (clumsyRest.map Prod.fst)).filter (·.1.isAsk) = clumsyRest.filter (·.1.isAsk) := by
  intro m
  have answers : (m.log clumsy).map Prod.snd = clumsyAnswers := by decide +kernel
  have logged : m.log clumsy = clumsy.zip clumsyAnswers := answers ▸ log_eq_zip m clumsy
  have steady : m.Steady clumsyBudgets clumsy := by
    refine ⟨by decide, by decide, ?_, ?_⟩
    · intro t cost now member
      simp only [clumsy, List.mem_cons, Use.ask.injEq, reduceCtorEq, List.not_mem_nil, or_false, false_or] at member
      rcases member with ⟨rfl, -⟩ | ⟨rfl, -⟩ | ⟨rfl, -⟩ | ⟨rfl, -⟩ | ⟨rfl, -⟩ <;> rfl
    · intro id b n held live
      by_cases own : id = "t"
      · subst own
        have first : m.bucket? "t" = some ⟨60, 10, 0⟩ := by decide +kernel
        obtain rfl : b = ⟨60, 10, 0⟩ := Option.some.inj (held.symm.trans first)
        obtain rfl : n = 60 := (Option.some.inj live).symm
        decide +kernel
      · have absent : m.bucket? id = none := (bucket?_ask (start none) (payer 60) 50 0).trans (if_neg own)
        rw [absent] at held
        cases held
  have part : Thinned (m.log clumsy) clumsyRest := by
    rw [logged]
    exact .kept _ (.left (.throttled ..) (.left (.throttled ..) (.left (.looked ..) (.kept _ (.kept _ (.kept _ .nil))))))
  exact ⟨steady, part, answers_of_thinned none [.ask (payer 60) 50 0] clumsyBudgets clumsy steady clumsyRest part⟩

end Meter

end TenantGateway
