/-
Numbers of which neither a cap nor a charge raises the whole part.

`Quantity.Measured` states the two laws of numbers that keep what an answer of the limiter tells within a tenant's budget.
Rationals have them. Doubles have them as well, whatever they are, infinite or no numbers at all included, and although a difference
is rounded: rounding never goes beyond a double (`Double.exists_holds_round`), so a difference is not rounded to more than what it
was taken from (`Double.sub_cases`), and neither is its whole part.
-/
import TenantGateway.Proofs.Limiter.Exact

namespace TenantGateway

/-- numbers of which neither a cap nor a charge raises the whole part -/
class Quantity.Measured (α : Type) [Quantity α] : Prop where
  floor_min_le (a : α) {n : ℕ} (small : n < 2 ^ 32) : Quantity.floor (Quantity.min a (Quantity.ofNat n)) ≤ n
  floor_sub_le (a : α) (n : ℕ) : Quantity.floor (Quantity.sub a (Quantity.ofNat n)) ≤ Quantity.floor a

instance : Quantity.Measured ℚ where
  floor_min_le a n _ := by
    have capped : (min a (n : ℚ)).floor ≤ (n : ℤ) :=
      (Int.floor_le_floor (min_le_right a (n : ℚ))).trans (Int.floor_natCast n).le
    rw [Quantity.min_rat, Quantity.ofNat_rat]
    exact Int.toNat_le.2 capped
  floor_sub_le a n := by
    have less : a - (n : ℚ) ≤ a := sub_le_self a (by positivity)
    exact Int.toNat_le_toNat (Int.floor_le_floor less)

namespace Double

open Float.Model Float.Model.UnpackedFloat

/-! ## Rounding does not go beyond a double -/

theorem roundToNearestEven_bounds (m : ℕ) (accuracy : Accuracy) :
    m ≤ accuracy.roundToNearestEven m ∧ accuracy.roundToNearestEven m ≤ m + 1 := by
  cases accuracy with
  | exact => exact ⟨le_rfl, Nat.le_succ m⟩
  | inexact half =>
    cases half with
    | lt => exact ⟨le_rfl, Nat.le_succ m⟩
    | eq =>
      have odd : m % 2 ≤ 1 := Nat.le_of_lt_succ (Nat.mod_lt m (by norm_num))
      exact ⟨Nat.le_add_right .., Nat.add_le_add_left odd m⟩
    | gt => exact ⟨Nat.le_succ m, le_rfl⟩

/-- a mantissa that has lost this many digits, and is rounded -/
def rounded (m k : ℕ) : ℕ :=
  ((⟨m, false, false⟩ : ExtendedMantissa) >>> k).roundedMantissa

theorem rounded_bounds (m k : ℕ) : m / 2 ^ k ≤ rounded m k ∧ rounded m k ≤ m / 2 ^ k + 1 := by
  have left : ((⟨m, false, false⟩ : ExtendedMantissa) >>> k).mantissa = m / 2 ^ k := shiftRight_mantissa _ k
  rw [← left]
  exact roundToNearestEven_bounds _ _

/-- it is rounded up to the next whole number at most -/
theorem rounded_le {m k w : ℕ} (le : m ≤ w * 2 ^ k) : rounded m k ≤ w := by
  rcases le.eq_or_lt with rfl | less
  · rw [rounded, shiftRight_zeros]
    exact le_rfl
  · have whole : m / 2 ^ k < w := (Nat.div_lt_iff_lt_mul (Nat.two_pow_pos k)).2 less
    exact (rounded_bounds m k).2.trans whole

/-- what is at most a double has at most the exponent of the double -/
theorem target_le {m m' : ℕ} {e e' : ℤ} (pos : 0 < m) (least : -1074 ≤ e) (h : Canonical m' e')
    (le : steps m e ≤ steps m' e') : Format.binary64.targetExponent (totalExponent m e) ≤ e' := by
  have least' := h.least
  have digits : m.log2 + (e + 1074).toNat < 53 + (e' + 1074).toNat := by
    apply (Nat.pow_lt_pow_iff_right (by norm_num : 1 < 2)).1
    calc 2 ^ (m.log2 + (e + 1074).toNat) = 2 ^ m.log2 * 2 ^ (e + 1074).toNat := pow_add ..
      _ ≤ steps m e := Nat.mul_le_mul_right _ (Nat.log2_self_le pos.ne')
      _ ≤ steps m' e' := le
      _ < 2 ^ 53 * 2 ^ (e' + 1074).toNat := Nat.mul_lt_mul_of_pos_right h.width (Nat.two_pow_pos _)
      _ = 2 ^ (53 + (e' + 1074).toNat) := (pow_add ..).symm
  rw [targetExponent_eq]
  omega

/-- a mantissa that has become one digit too long by rounding is canonical one exponent higher -/
theorem exists_canonical_of_rounded {r : ℕ} {e : ℤ} (pos : 0 < r) (width : r ≤ 2 ^ 53) (least : -1074 ≤ e)
    (greatest : e ≤ 971) (room : r = 2 ^ 53 → e < 971) (normal : 2 ^ 52 ≤ r ∨ e = -1074) :
    ∃ m k : ℕ, r = m * 2 ^ k ∧ 0 < m ∧ Canonical m (e + k) := by
  rcases width.eq_or_lt with long | short
  · have higher := room long
    refine ⟨2 ^ 52, 1, by rw [long]; norm_num, by norm_num, ?_⟩
    exact ⟨by norm_num, by push_cast; omega, by push_cast; omega, .inl le_rfl⟩
  · refine ⟨r, 0, by rw [pow_zero, mul_one], pos, ?_⟩
    rw [Nat.cast_zero, add_zero]
    exact ⟨short, least, greatest, normal⟩

/-- a shift to the target exponent takes as many digits as there are exponents between -/
theorem shiftToTargetExponent_eq {m k : ℕ} {e : ℤ} (target : Format.binary64.targetExponent (totalExponent m e) = e + k) :
    shiftToTargetExponent Format.binary64 m e .exact = ((⟨m, false, false⟩ : ExtendedMantissa) >>> k, e + k) := by
  have amount : (e + (k : ℤ) - e).toNat = k := by omega
  rw [shiftToTargetExponent, target]
  simp only [shiftToExponent, amount, ExtendedMantissa.ofMantissaAndAccuracy]

section

variable {m k : ℕ} {e : ℤ}

/-- what is left has at most the digits of a mantissa, or one more by rounding, -/
theorem rounded_le_of_target (target : max (m.log2 + e - 52) (-1074) = e + k) : rounded m k ≤ 2 ^ 53 := by
  have digits : m.log2 + 1 ≤ 53 + k := by omega
  have less : m < 2 ^ 53 * 2 ^ k := by
    rw [← pow_add]
    exact Nat.lt_log2_self.trans_le (Nat.pow_le_pow_right (by norm_num) digits)
  have whole : m / 2 ^ k < 2 ^ 53 := (Nat.div_lt_iff_lt_mul (Nat.two_pow_pos k)).2 less
  exact (rounded_bounds m k).2.trans whole

/-- and no fewer, unless there is no smaller exponent -/
theorem rounded_normal (pos : 0 < m) (target : max (m.log2 + e - 52) (-1074) = e + k) :
    2 ^ 52 ≤ rounded m k ∨ e + k = -1074 := by
  by_cases bottom : e + k = -1074
  · exact .inr bottom
  · left
    have digits : m.log2 = 52 + k := by omega
    have enough : 2 ^ 52 * 2 ^ k ≤ m := by
      rw [← pow_add, ← digits]
      exact Nat.log2_self_le pos.ne'
    exact ((Nat.le_div_iff_mul_le (Nat.two_pow_pos k)).2 enough).trans (rounded_bounds m k).1

end

/-- what is at most a double is rounded to no more than it, as the last digit that is left counts -/
theorem rounded_le_of_steps_le {m m' k : ℕ} {e e' : ℤ} (least : -1074 ≤ e) (below : e + k ≤ e') (le : steps m e ≤ steps m' e') :
    rounded m k ≤ m' * 2 ^ (e' - (e + k)).toNat := by
  apply rounded_le
  have exponent : (e' - e).toNat = (e' - (e + k)).toNat + k := by omega
  rw [steps_eq_mul m' least (by omega), exponent, pow_add, ← mul_assoc, steps] at le
  exact Nat.le_of_mul_le_mul_right le (Nat.two_pow_pos _)

/-- digits go twice: as many as the target exponent asks for, and then those that rounding has made too many -/
theorem roundWithAccuracy_eq {m k : ℕ} {e : ℤ} (target : Format.binary64.targetExponent (totalExponent m e) = e + k) :
    roundWithAccuracy Format.binary64 .positive m e .exact =
      if zero : (shiftToTargetExponent Format.binary64 (rounded m k) (e + k) .exact).1.mantissa = 0 then .zero .positive
      else .finite .positive (shiftToTargetExponent Format.binary64 (rounded m k) (e + k) .exact).1.mantissa
        (shiftToTargetExponent Format.binary64 (rounded m k) (e + k) .exact).2 (Nat.pos_of_ne_zero zero) := by
  rw [roundWithAccuracy, shiftToTargetExponent_eq target]
  rfl

/-- **Rounding does not go beyond a double**, where digits go. -/
theorem exists_holds_roundWithAccuracy {m m' k : ℕ} {e e' : ℤ} (pos : 0 < m) (least : -1074 ≤ e) (h : Canonical m' e')
    (le : steps m e ≤ steps m' e') (target : Format.binary64.targetExponent (totalExponent m e) = e + k) :
    ∃ u ≤ steps m' e', Holds (roundWithAccuracy Format.binary64 .positive m e .exact) u := by
  have below : e + k ≤ e' := target ▸ target_le pos least h le
  have bottom : -1074 ≤ e + k := by omega
  have small := rounded_le_of_steps_le least below le
  rw [roundWithAccuracy_eq target]
  rcases Nat.eq_zero_or_pos (rounded m k) with nothing | something
  · have none : (shiftToTargetExponent Format.binary64 0 (e + k) .exact).1.mantissa = 0 :=
      (shiftRight_mantissa _ _).trans (Nat.zero_div _)
    rw [nothing, dif_pos none]
    exact ⟨0, Nat.zero_le _, .zero _⟩
  · rw [targetExponent_eq] at target
    have greatest := h.greatest
    have room : rounded m k = 2 ^ 53 → e + k < 971 := by
      intro long
      by_contra top
      have same : (e' - (e + k)).toNat = 0 := by omega
      rw [long, same, pow_zero, mul_one] at small
      exact absurd h.width (not_lt.2 small)
    obtain ⟨r, j, carried, pos', canonical⟩ :=
      exists_canonical_of_rounded something (rounded_le_of_target target) bottom (by omega) room (rounded_normal pos target)
    have second := shift_exact canonical pos' j
    rw [add_sub_cancel_right, ← carried] at second
    rw [second, dif_neg pos'.ne']
    refine ⟨steps r (e + k + j), ?_, .finite pos' canonical⟩
    calc steps r (e + k + j)
        = r * 2 ^ (e + k + j - (e + k)).toNat * 2 ^ (e + k + 1074).toNat := steps_eq_mul r bottom (by omega)
      _ = rounded m k * 2 ^ (e + k + 1074).toNat := by rw [add_sub_cancel_left, Int.toNat_natCast, ← carried]
      _ ≤ m' * 2 ^ (e' - (e + k)).toNat * 2 ^ (e + k + 1074).toNat := Nat.mul_le_mul_right _ small
      _ = steps m' e' := (steps_eq_mul m' bottom below).symm

/-- **Rounding does not go beyond a double.** -/
theorem exists_holds_round {m m' : ℕ} {e e' : ℤ} (pos : 0 < m) (least : -1074 ≤ e) (greatest : e ≤ 971)
    (h : Canonical m' e') (le : steps m e ≤ steps m' e') : ∃ u ≤ steps m' e', Holds (UnpackedFloat.round Format.binary64 .positive m e) u := by
  rcases le_or_gt (Format.binary64.targetExponent (totalExponent m e)) e with fits | digits
  · -- no digits go
    rw [targetExponent_eq] at fits
    have width : m < 2 ^ 53 := (Nat.log2_lt pos.ne').1 (by omega)
    exact ⟨steps m e, le, holds_round least width (by omega) pos rfl⟩
  · obtain ⟨k, target⟩ : ∃ k : ℕ, Format.binary64.targetExponent (totalExponent m e) = e + k :=
      ⟨(Format.binary64.targetExponent (totalExponent m e) - e).toNat, by omega⟩
    have unmoved : decreaseExponent m e (e + k) = (m, e) := by
      simp [decreaseExponent]
    have rounded := exists_holds_roundWithAccuracy pos least h le target
    rw [UnpackedFloat.round, target]
    simpa only [unmoved] using rounded

/-! ## Differences -/

theorem onSide_normalize {m : ℤ} (below : m < 0) (e : ℤ) (s : Sign) :
    OnSide .negative (UnpackedFloat.normalize Format.binary64 m e s) := by
  unfold UnpackedFloat.normalize
  rw [show compare m 0 = .lt from Int.compare_eq_lt.2 below]
  exact onSide_roundWithAccuracy _ _ _ _

theorem decreaseExponent_pos {m : ℕ} (pos : 0 < m) (e e' : ℤ) : 0 < (decreaseExponent m e e').1 := by
  unfold decreaseExponent
  dsimp only
  rw [Nat.shiftLeft_eq]
  exact Nat.mul_pos pos (Nat.two_pow_pos _)

/-- what is not above zero stays so when something is taken from it -/
theorem OnSide.sub {f g : UnpackedFloat} (hf : OnSide .negative f) (hg : NotNegative g) :
    OnSide .negative (UnpackedFloat.sub Format.binary64 f g) := by
  cases hf with
  | notANumber => exact .notANumber
  | infinity =>
    cases hg with
    | notANumber => exact .notANumber
    | infinity => exact .infinity
    | zero s => exact .infinity
    | finite pos => exact .infinity
  | zero s =>
    cases hg with
    | notANumber => exact .notANumber
    | infinity => exact .infinity
    | zero s' =>
      unfold UnpackedFloat.sub
      dsimp only
      split_ifs <;> exact .zero _
    | finite pos => exact .finite pos
  | @finite m e pos =>
    cases hg with
    | notANumber => exact .notANumber
    | infinity => exact .infinity
    | zero s => exact .finite pos
    | @finite m' e' pos' =>
      have minuend := decreaseExponent_pos pos e (min e e')
      refine onSide_normalize ?_ (min e e') .positive
      change -((decreaseExponent m e (min e e')).1 : ℤ) - ((decreaseExponent m' e' (min e e')).1 : ℤ) < 0
      omega

/-- **A difference is not more than what it was taken from**, although it is rounded: there is nothing left above zero, or no more
steps than before. -/
theorem sub_cases {f : UnpackedFloat} {u : ℕ} (hf : Holds f u) (x : Float.Model) (hx : NotNegative x.unpack) :
    OnSide .negative (UnpackedFloat.sub Format.binary64 f x.unpack) ∨
      ∃ v ≤ u, Holds (UnpackedFloat.sub Format.binary64 f x.unpack) v := by
  generalize unpacked : x.unpack = g at hx ⊢
  cases hf with
  | zero s => exact .inl ((OnSide.zero s).sub hx)
  | @finite m e pos own =>
    cases hx with
    | notANumber => exact .inl .notANumber
    | infinity => exact .inl .infinity
    | zero s => exact .inr ⟨_, le_rfl, .finite pos own⟩
    | @finite m' e' pos' =>
      have other := canonical_unpack unpacked
      have least : -1074 ≤ min e e' := le_min own.least other.least
      have greatest : min e e' ≤ 971 := (min_le_left e e').trans own.greatest
      have minuend := decreaseExponent_steps m least (min_le_left e e')
      have taken := decreaseExponent_pos pos' e' (min e e')
      rw [sub_finite]
      generalize difference : ((decreaseExponent m e (min e e')).1 : ℤ) - ((decreaseExponent m' e' (min e e')).1 : ℤ) = d
      rcases lt_trichotomy d 0 with below | rfl | above
      · exact .inl (onSide_normalize below _ _)
      · exact .inl (.zero .positive)
      · right
        obtain ⟨k, rfl⟩ := Int.eq_ofNat_of_zero_le above.le
        have fewer : steps k (min e e') ≤ steps m e := by
          rw [← minuend]
          exact Nat.mul_le_mul_right _ (by omega)
        rw [normalize_positive above]
        exact exists_holds_round (by omega) least greatest own fewer

/-! ## Whole parts -/

/-- what is not above zero has no whole part -/
theorem OnSide.toUInt64 {f : UnpackedFloat} (h : OnSide .negative f) : f.toUInt64.toNat = 0 := by
  have nothing : (f.toInt 0 (UInt64.size - 1)).toNat = 0 := by
    cases h with
    | notANumber => rfl
    | infinity => rfl
    | zero s => rfl
    | @finite m e pos =>
      change (-(((shiftToExponent (decreaseExponent m e 0).1 (decreaseExponent m e 0).2 .exact 0).1.mantissa : ℕ) : ℤ)).toNat = 0
      omega
  unfold UnpackedFloat.toUInt64
  rw [nothing]
  rfl

/-- fewer steps do not have a greater whole part, also where it is cut to a word -/
theorem toUInt64_mono {f g : UnpackedFloat} {u v : ℕ} (hf : Holds f u) (hg : Holds g v) (le : u ≤ v) :
    f.toUInt64.toNat ≤ g.toUInt64.toNat := by
  rcases lt_or_ge (v / unit) (2 ^ 64) with small | large
  · have fewer : u / unit ≤ v / unit := Nat.div_le_div_right le
    rw [toUInt64_holds hf (fewer.trans_lt small), toUInt64_holds hg small]
    exact fewer
  · rw [toUInt64_holds_of_le hg large]
    exact Nat.le_pred_of_lt f.toUInt64.toNat_lt

/-- a double has nothing above zero, or is infinite, or is a number of steps -/
theorem unpack_cases (x : Float.Model) :
    OnSide .negative x.unpack ∨ x.unpack = .infinity .positive ∨ ∃ u, Holds x.unpack u := by
  generalize unpacked : x.unpack = f
  cases f with
  | notANumber => exact .inl .notANumber
  | infinity s => cases s with
    | negative => exact .inl .infinity
    | positive => exact .inr (.inl rfl)
  | zero s => exact .inl (.zero s)
  | finite s m e pos => cases s with
    | negative => exact .inl (.finite pos)
    | positive => exact .inr (.inr ⟨_, .finite pos (canonical_unpack unpacked)⟩)

theorem infinity_le_holds {f : UnpackedFloat} {u : ℕ} (h : Holds f u) : ¬ (infinity .positive).le f = true := by
  cases h <;> exact Bool.false_ne_true

end Double

open Double Quantity in
instance : Quantity.Measured Float where
  floor_min_le a n small := by
    unfold Quantity.min
    split_ifs with less
    · rw [le_double_iff] at less
      obtain nothing | infinite | ⟨u, hu⟩ := unpack_cases a.toModel
      · exact nothing.toUInt64.trans_le (Nat.zero_le n)
      · rw [infinite] at less
        exact absurd less (infinity_le_holds (holds_word small))
      · have fewer : u ≤ n * unit := (le_holds hu (holds_word small)).1 less
        rw [floor_double small hu fewer]
        exact div_unit_le fewer
    · exact (Exact.floor_ofNat small).le
  floor_sub_le a n := by
    have taken := notNegative_ofUInt64 (UInt64.ofNat n)
    obtain nothing | infinite | ⟨u, hu⟩ := unpack_cases a.toModel
    · exact (nothing.sub taken).pack.toUInt64.trans_le (Nat.zero_le _)
    · have all : floor a = 2 ^ 64 - 1 := by
        change a.toModel.unpack.toUInt64.toNat = _
        rw [infinite]
        rfl
      rw [all]
      exact Nat.le_pred_of_lt (sub a (ofNat n)).toUInt64.toNat_lt
    · obtain nothing | ⟨v, fewer, hv⟩ := sub_cases hu (UInt64.ofNat n).toFloat.toModel taken
      · exact nothing.pack.toUInt64.trans_le (Nat.zero_le _)
      · exact toUInt64_mono hv.pack hu fewer

end TenantGateway
