/-
Buckets on exact numbers: what one use of a limiter does to a bucket.

`Bucket.Moved` lists what can happen to a bucket in one use: nothing, a new budget, a refill, or a charge after both. From it:
- `Moved.sound`: on rationals a bucket keeps at least nothing and at most its capacity, which is one token at least;
- `Moved.last_eq`: `last` is the latest clock reading taken in, however the readings come;
- `Moved.afford`: what is charged is paid from what the bucket held and from what its capacity earned since `last`.
-/
import Mathlib.Tactic
import TenantGateway.Limiter.Bucket

namespace TenantGateway

/-! ## Rationals as quantities -/

namespace Quantity

@[simp] theorem ofNat_rat (n : ℕ) : (ofNat n : ℚ) = n := rfl

@[simp] theorem seconds_rat (n : ℕ) : (seconds n : ℚ) = n / 1000000000 := rfl

@[simp] theorem add_rat (a b : ℚ) : add a b = a + b := rfl

@[simp] theorem sub_rat (a b : ℚ) : sub a b = a - b := rfl

@[simp] theorem mul_rat (a b : ℚ) : mul a b = a * b := rfl

@[simp] theorem div_rat (a b : ℚ) : div a b = a / b := rfl

@[simp] theorem le_rat (a b : ℚ) : le a b = decide (a ≤ b) := rfl

@[simp] theorem min_rat (a b : ℚ) : Quantity.min a b = Min.min a b := by
  unfold Quantity.min
  by_cases h : a ≤ b
  · simp [h]
  · simp [h, min_eq_right (le_of_not_ge h)]

end Quantity

/-- the tokens that an answer takes for a request of this cost -/
def Admission.charged (cost : ℕ) : Admission → ℕ
  | .admitted _ => cost
  | _ => 0

namespace Bucket

/-! ## The parts of a bucket after each operation -/

section Parts

variable {α : Type} [Quantity α]

@[simp] theorem reconfigure_last (b : Bucket α) (n : ℕ) : (b.reconfigure n).last = b.last := rfl

@[simp] theorem reconfigure_capacity (b : Bucket α) (n : ℕ) : (b.reconfigure n).capacity = capacityOf n := rfl

@[simp] theorem refill_capacity (b : Bucket α) (now : ℤ) : (b.refill now).capacity = b.capacity := by
  unfold refill
  split <;> rfl

theorem refill_last (b : Bucket α) (now : ℤ) : (b.refill now).last = max b.last now := by
  unfold refill
  split
  · rename_i h
    exact (max_eq_left h).symm
  · rename_i h
    exact (max_eq_right (le_of_not_ge h)).symm

/-- a charge is a refill, and then the cost is taken or nothing is -/
theorem tryTake_cases (b : Bucket α) (cost : ℕ) (now : ℤ) :
    (Quantity.le (Quantity.ofNat cost) (b.refill now).tokens = true ∧
      (b.tryTake cost now).1 =
        { b.refill now with tokens := Quantity.sub (b.refill now).tokens (Quantity.ofNat cost) } ∧
      ∃ remaining, (b.tryTake cost now).2 = .admitted remaining) ∨
    (Quantity.le (Quantity.ofNat cost) (b.refill now).tokens = false ∧ (b.tryTake cost now).1 = b.refill now ∧
      ∃ remaining wait, (b.tryTake cost now).2 = .throttled remaining wait) := by
  unfold tryTake
  by_cases h : Quantity.le (Quantity.ofNat cost) (b.refill now).tokens = true
  · refine Or.inl ⟨h, ?_, ?_⟩
    · rw [if_pos h]
    · rw [if_pos h]
      exact ⟨_, rfl⟩
  · refine Or.inr ⟨eq_false_of_ne_true h, ?_, ?_⟩
    · rw [if_neg h]
    · rw [if_neg h]
      exact ⟨_, _, rfl⟩

/-- who is not admitted is told what the bucket holds and how long it takes until it holds the cost -/
theorem tryTake_throttled {b : Bucket α} {cost : ℕ} {now : ℤ} {remaining wait : ℕ}
    (h : (b.tryTake cost now).2 = .throttled remaining wait) :
    remaining = (b.refill now).remaining ∧ wait = (b.refill now).wait cost := by
  unfold tryTake at h
  dsimp only at h
  split_ifs at h with enough
  simp only [Admission.throttled.injEq] at h
  exact ⟨h.1.symm, h.2.symm⟩

theorem tryTake_last (b : Bucket α) (cost : ℕ) (now : ℤ) : (b.tryTake cost now).1.last = max b.last now := by
  rcases tryTake_cases b cost now with ⟨-, h, -⟩ | ⟨-, h, -⟩ <;> rw [h] <;> exact refill_last b now

theorem tryTake_capacity (b : Bucket α) (cost : ℕ) (now : ℤ) : (b.tryTake cost now).1.capacity = b.capacity := by
  rcases tryTake_cases b cost now with ⟨-, h, -⟩ | ⟨-, h, -⟩ <;> rw [h] <;> exact refill_capacity b now

theorem tryTake_ne_revoked (b : Bucket α) (cost : ℕ) (now : ℤ) : (b.tryTake cost now).2 ≠ .revoked := by
  rcases tryTake_cases b cost now with ⟨-, -, r, h⟩ | ⟨-, -, r, w, h⟩ <;> rw [h] <;> nofun

end Parts

/-! ## One use -/

/-- what one use does to a bucket: the clock reading that it takes in, if any, and the tokens that it charges -/
inductive Moved {α : Type} [Quantity α] (b : Bucket α) : Bucket α → Option ℤ → ℕ → Prop where
  | still : Moved b b none 0
  | rebudgeted (n : ℕ) : Moved b (b.reconfigure n) none 0
  | filled (now : ℤ) : Moved b (b.refill now) (some now) 0
  | asked (n cost : ℕ) (now : ℤ) :
      Moved b ((b.reconfigure n).tryTake cost now).1 (some now) (((b.reconfigure n).tryTake cost now).2.charged cost)

/-- the later of an instant and a clock reading, if there is one -/
def later (last : ℤ) (reading : Option ℤ) : ℤ :=
  reading.elim last (max last)

theorem Moved.last_eq {α : Type} [Quantity α] {b b' : Bucket α} {reading : Option ℤ} {spent : ℕ}
    (h : Moved b b' reading spent) : b'.last = later b.last reading := by
  cases h with
  | still => rfl
  | rebudgeted n => rfl
  | filled now => exact refill_last b now
  | asked n cost now => exact tryTake_last (b.reconfigure n) cost now

/-! ## Soundness on rationals -/

/-- a bucket that holds at least nothing and at most its capacity -/
structure Sound (b : Bucket ℚ) : Prop where
  one_le : 1 ≤ b.capacity
  nonneg : 0 ≤ b.tokens
  le_capacity : b.tokens ≤ b.capacity

theorem one_le_capacityOf (n : ℕ) : (1 : ℚ) ≤ capacityOf n := by
  unfold capacityOf
  rw [Quantity.ofNat_rat]
  exact_mod_cast le_max_right n 1

theorem sound_full (n : ℕ) (now : ℤ) : Sound (full n now) :=
  ⟨one_le_capacityOf n, zero_le_one.trans (one_le_capacityOf n), le_rfl⟩

theorem reconfigure_tokens (b : Bucket ℚ) (n : ℕ) :
    (b.reconfigure n).tokens = min b.tokens (capacityOf n) := Quantity.min_rat _ _

theorem Sound.reconfigure {b : Bucket ℚ} (h : b.Sound) (n : ℕ) : (b.reconfigure n).Sound := by
  have one := one_le_capacityOf n
  refine ⟨one, ?_, ?_⟩
  · rw [reconfigure_tokens]
    exact le_min h.nonneg (zero_le_one.trans one)
  · rw [reconfigure_tokens]
    exact min_le_right _ _

/-- seconds from one instant to another, none if it is not later -/
def secondsTo (last now : ℤ) : ℚ :=
  ((now - last).toNat : ℚ) / 1000000000

theorem secondsTo_nonneg (last now : ℤ) : 0 ≤ secondsTo last now := by
  unfold secondsTo
  positivity

theorem secondsTo_of_le {last now : ℤ} (h : last ≤ now) : secondsTo last now = ((now - last : ℤ) : ℚ) / 1000000000 := by
  have span : ((now - last).toNat : ℤ) = now - last := Int.toNat_of_nonneg (sub_nonneg.2 h)
  have := congrArg (Int.cast : ℤ → ℚ) span
  rw [Int.cast_natCast] at this
  rw [secondsTo, this]

/-- a refill adds what the capacity earns, up to the capacity -/
theorem refill_tokens {b : Bucket ℚ} (h : b.Sound) (now : ℤ) :
    (b.refill now).tokens = min (b.tokens + secondsTo b.last now * (b.capacity / 60)) b.capacity := by
  unfold refill
  split
  · rename_i hle
    have : (now - b.last).toNat = 0 := by omega
    simp [secondsTo, this, min_eq_left h.le_capacity]
  · simp [secondsTo]

theorem Sound.refill {b : Bucket ℚ} (h : b.Sound) (now : ℤ) : (b.refill now).Sound := by
  have zero : 0 ≤ b.capacity := zero_le_one.trans h.one_le
  have earned : 0 ≤ secondsTo b.last now * (b.capacity / 60) :=
    mul_nonneg (secondsTo_nonneg _ _) (div_nonneg zero (by norm_num))
  refine ⟨?_, ?_, ?_⟩
  · rw [refill_capacity]
    exact h.one_le
  · rw [refill_tokens h]
    exact le_min (add_nonneg h.nonneg earned) zero
  · rw [refill_tokens h, refill_capacity]
    exact min_le_right _ _

theorem Sound.tryTake {b : Bucket ℚ} (h : b.Sound) (cost : ℕ) (now : ℤ) : (b.tryTake cost now).1.Sound := by
  have filled := h.refill now
  rcases tryTake_cases b cost now with ⟨enough, hb, -⟩ | ⟨-, hb, -⟩
  · rw [hb]
    simp only [Quantity.le_rat, Quantity.ofNat_rat, decide_eq_true_eq] at enough
    refine ⟨filled.one_le, ?_, ?_⟩
    · simp only [Quantity.sub_rat, Quantity.ofNat_rat]
      linarith
    · simp only [Quantity.sub_rat, Quantity.ofNat_rat]
      have : (0 : ℚ) ≤ cost := Nat.cast_nonneg cost
      linarith [filled.le_capacity]
  · rw [hb]
    exact filled

/-- a request that is not charged is a refill -/
theorem tryTake_of_free {b : Bucket ℚ} {cost : ℕ} {now : ℤ} (free : (b.tryTake cost now).2.charged cost = 0) :
    (b.tryTake cost now).1 = b.refill now := by
  rcases tryTake_cases b cost now with ⟨-, left, remaining, answer⟩ | ⟨-, left, -⟩
  · rw [answer] at free
    have nothing : cost = 0 := free
    have unspent : Quantity.sub (b.refill now).tokens (Quantity.ofNat 0) = (b.refill now).tokens := by simp
    rw [left, nothing, unspent]
  · exact left

theorem Moved.sound {b b' : Bucket ℚ} {reading : Option ℤ} {spent : ℕ} (h : Moved b b' reading spent) (hb : b.Sound) :
    b'.Sound := by
  cases h with
  | still => exact hb
  | rebudgeted n => exact hb.reconfigure n
  | filled now => exact hb.refill now
  | asked n cost now => exact (hb.reconfigure n).tryTake cost now

/-! ## What a charge is paid from -/

/-- from one state of a bucket to another no more was spent than it held and earned at `rate` tokens a minute -/
structure Afford (rate : ℚ) (b b' : Bucket ℚ) (spent : ℕ) : Prop where
  forward : b.last ≤ b'.last
  paid : spent + b'.tokens ≤ b.tokens + rate / 60 * (((b'.last - b.last : ℤ) : ℚ) / 1000000000)

theorem Afford.refl (rate : ℚ) (b : Bucket ℚ) : Afford rate b b 0 :=
  ⟨le_rfl, by simp⟩

theorem Afford.mono {rate rate' : ℚ} {b b' : Bucket ℚ} {spent : ℕ} (h : Afford rate b b' spent) (hr : rate ≤ rate') :
    Afford rate' b b' spent := by
  refine ⟨h.forward, h.paid.trans ?_⟩
  have span : 0 ≤ ((b'.last - b.last : ℤ) : ℚ) / 1000000000 := by
    have : (0 : ℚ) ≤ ((b'.last - b.last : ℤ) : ℚ) := by exact_mod_cast sub_nonneg.2 h.forward
    positivity
  have := mul_le_mul_of_nonneg_right (div_le_div_of_nonneg_right hr (by norm_num : (0 : ℚ) ≤ 60)) span
  linarith

/-- what was spent adds up, and so does the time in which it was earned -/
theorem Afford.trans {rate : ℚ} {b b' b'' : Bucket ℚ} {spent spent' : ℕ} (h : Afford rate b b' spent)
    (h' : Afford rate b' b'' spent') : Afford rate b b'' (spent + spent') := by
  refine ⟨h.forward.trans h'.forward, ?_⟩
  have first := h.paid
  have second := h'.paid
  push_cast at first second ⊢
  linarith

theorem afford_refill {b : Bucket ℚ} (h : b.Sound) (now : ℤ) : Afford b.capacity b (b.refill now) 0 := by
  have last := refill_last b now
  have forward : b.last ≤ (b.refill now).last := last ▸ le_max_left _ _
  refine ⟨forward, ?_⟩
  have span : secondsTo b.last now = (((b.refill now).last - b.last : ℤ) : ℚ) / 1000000000 := by
    rw [← secondsTo_of_le forward, last]
    unfold secondsTo
    congr 2
    omega
  rw [refill_tokens h, span, mul_comm]
  simp only [Nat.cast_zero, zero_add]
  exact min_le_left _ _

theorem afford_tryTake {b : Bucket ℚ} (h : b.Sound) (cost : ℕ) (now : ℤ) :
    Afford b.capacity b (b.tryTake cost now).1 ((b.tryTake cost now).2.charged cost) := by
  have filled := afford_refill h now
  rcases tryTake_cases b cost now with ⟨-, hb, r, ha⟩ | ⟨-, hb, r, w, ha⟩
  · rw [hb, ha]
    refine ⟨filled.forward, ?_⟩
    have := filled.paid
    simp only [Admission.charged, Quantity.sub_rat, Quantity.ofNat_rat, Nat.cast_zero] at this ⊢
    linarith
  · rw [hb, ha]
    exact filled

theorem afford_reconfigure (rate : ℚ) (b : Bucket ℚ) (n : ℕ) : Afford rate b (b.reconfigure n) 0 := by
  refine ⟨le_rfl, ?_⟩
  rw [reconfigure_tokens]
  simp

/-- one use charges no more than was held and earned at the capacity it leaves -/
theorem Moved.afford {b b' : Bucket ℚ} {reading : Option ℤ} {spent : ℕ} (h : Moved b b' reading spent) (hb : b.Sound) :
    Afford b'.capacity b b' spent := by
  cases h with
  | still => exact .refl _ b
  | rebudgeted n => exact afford_reconfigure _ b n
  | filled now =>
    rw [refill_capacity]
    exact afford_refill hb now
  | asked n cost now =>
    rw [tryTake_capacity]
    have := (afford_reconfigure (b.reconfigure n).capacity b n).trans (afford_tryTake (hb.reconfigure n) cost now)
    rwa [Nat.zero_add] at this

end Bucket

end TenantGateway
