/-
What a bucket relies on its numbers for.

`Quantity.Exact` states the laws that make the whole tokens a bucket tells agree with what it decides: as long as capacities,
budgets and costs are numbers of 32 bits, a level stays between nothing and the capacity, a level holds a cost exactly if its whole
part does, and taking whole tokens from a level takes them from its whole part. Rationals have these laws, and so have doubles,
although what doubles earn is rounded.
-/
import TenantGateway.Proofs.Limiter.Bucket
import TenantGateway.Proofs.Limiter.Doubles

namespace TenantGateway

namespace Quantity

/-- a level between nothing and a whole capacity -/
structure Within {α : Type} [Quantity α] (n : ℕ) (a : α) : Prop where
  nonneg : le (ofNat 0) a = true
  capped : le a (ofNat n) = true

/-- numbers on which whole tokens are exact, as far as 32 bits go -/
class Exact (α : Type) [Quantity α] : Prop where
  within_ofNat {n : ℕ} (word : n < 2 ^ 32) : Within n (ofNat n : α)
  floor_ofNat {n : ℕ} (word : n < 2 ^ 32) : floor (ofNat n : α) = n
  within_min {m n : ℕ} (word : n < 2 ^ 32) {a : α} (level : Within m a) : Within n (Quantity.min a (ofNat n))
  within_earned {n : ℕ} (word : n < 2 ^ 32) {a : α} (level : Within n a) (span : ℕ) :
    Within n (Quantity.min (add a (mul (seconds span) (div (ofNat n) (ofNat 60)))) (ofNat n))
  le_iff {n k : ℕ} (word : n < 2 ^ 32) (word' : k < 2 ^ 32) {a : α} (level : Within n a) :
    le (ofNat k) a = true ↔ k ≤ floor a
  within_sub {n k : ℕ} (word : n < 2 ^ 32) (word' : k < 2 ^ 32) {a : α} (level : Within n a) (holds : le (ofNat k) a = true) :
    Within n (sub a (ofNat k))
  floor_sub {n k : ℕ} (word : n < 2 ^ 32) (word' : k < 2 ^ 32) {a : α} (level : Within n a) (holds : le (ofNat k) a = true) :
    floor (sub a (ofNat k)) = floor a - k

/-! ## Rationals -/

theorem within_rat_iff {n : ℕ} {a : ℚ} : Within n a ↔ 0 ≤ a ∧ a ≤ n := by
  constructor
  · intro h
    exact ⟨by simpa using h.nonneg, by simpa using h.capped⟩
  · rintro ⟨nonneg, capped⟩
    exact ⟨by simpa using nonneg, by simpa using capped⟩

theorem floor_rat (a : ℚ) : floor a = ⌊a⌋₊ := rfl

instance : Exact ℚ where
  within_ofNat _ := within_rat_iff.2 ⟨Nat.cast_nonneg _, le_rfl⟩
  floor_ofNat _ := by rw [ofNat_rat, floor_rat, Nat.floor_natCast]
  within_min _ a level := by
    obtain ⟨nonneg, -⟩ := within_rat_iff.1 level
    rw [min_rat]
    exact within_rat_iff.2 ⟨le_min nonneg (Nat.cast_nonneg _), min_le_right _ _⟩
  within_earned {n} _ a level span := by
    obtain ⟨nonneg, -⟩ := within_rat_iff.1 level
    have earned : (0 : ℚ) ≤ seconds span * ((n : ℚ) / 60) := by
      rw [seconds_rat]
      positivity
    rw [min_rat]
    exact within_rat_iff.2 ⟨le_min (add_nonneg nonneg earned) (Nat.cast_nonneg _), min_le_right _ _⟩
  le_iff _ _ a level := by
    obtain ⟨nonneg, -⟩ := within_rat_iff.1 level
    rw [le_rat, ofNat_rat, decide_eq_true_eq, floor_rat, Nat.le_floor_iff nonneg]
  within_sub {n k} _ _ a level holds := by
    obtain ⟨-, capped⟩ := within_rat_iff.1 level
    rw [le_rat, ofNat_rat, decide_eq_true_eq] at holds
    refine within_rat_iff.2 ⟨sub_nonneg.2 holds, ?_⟩
    exact (sub_le_self a (Nat.cast_nonneg k)).trans capped
  floor_sub {n k} _ _ a _ _ := Nat.floor_sub_natCast a k

/-! ## Doubles -/

open Float.Model Double

theorem le_double_iff (a b : Float) : le a b = true ↔ a.toModel.unpack.le b.toModel.unpack = true := by
  have compared : le a b = decide (a ≤ b) := rfl
  rw [compared, decide_eq_true_eq]
  change (decide (a.toModel ≤ b.toModel) = true) ↔ _
  rw [decide_eq_true_eq]
  rfl

theorem holds_word {n : ℕ} (word : n < 2 ^ 32) : Holds (ofNat n : Float).toModel.unpack (n * unit) := by
  have whole : (UInt64.ofNat n).toNat = n := by
    rw [UInt64.toNat_ofNat']
    exact Nat.mod_eq_of_lt (by omega)
  have exact : Holds (UnpackedFloat.ofNat Format.binary64 (UInt64.ofNat n).toNat) (n * unit) := by
    rw [whole]
    exact holds_ofNat (by omega)
  exact exact.pack

theorem holds_nothing : Holds (ofNat 0 : Float).toModel.unpack 0 := by
  have nothing := holds_word (show 0 < 2 ^ 32 by norm_num)
  rwa [zero_mul] at nothing

theorem Within.notNegative {n : ℕ} {a : Float} (h : Within n a) : NotNegative a.toModel.unpack :=
  notNegative_of_zero_le holds_nothing ((le_double_iff _ _).1 h.nonneg)

/-- the levels of a bucket are the numbers of steps up to its capacity -/
theorem within_double_iff {n : ℕ} (word : n < 2 ^ 32) {a : Float} :
    Within n a ↔ ∃ u ≤ n * unit, Holds a.toModel.unpack u := by
  constructor
  · intro h
    exact exists_holds_of_le h.notNegative (holds_word word) ((le_double_iff _ _).1 h.capped)
  · rintro ⟨u, le, hu⟩
    exact ⟨(le_double_iff _ _).2 ((le_holds holds_nothing hu).2 (Nat.zero_le u)),
      (le_double_iff _ _).2 ((le_holds hu (holds_word word)).2 le)⟩

theorem div_unit_le {n u : ℕ} (le : u ≤ n * unit) : u / unit ≤ n := by
  rw [Nat.div_le_iff_le_mul_add_pred unit_pos, mul_comm]
  exact le.trans (Nat.le_add_right _ _)

/-- the whole tokens of a level -/
theorem floor_double {n u : ℕ} (word : n < 2 ^ 32) {a : Float} (h : Holds a.toModel.unpack u) (le : u ≤ n * unit) :
    floor a = u / unit := by
  have whole : u / unit ≤ n := div_unit_le le
  exact toUInt64_holds h (by omega)

/-- what is capped and was not negative before is a level -/
theorem within_min_double {n : ℕ} (word : n < 2 ^ 32) {a : Float} (notNegative : NotNegative a.toModel.unpack) :
    Within n (Quantity.min a (ofNat n)) := by
  rw [within_double_iff word]
  unfold Quantity.min
  split_ifs with less
  · exact exists_holds_of_le notNegative (holds_word word) ((le_double_iff _ _).1 less)
  · exact ⟨n * unit, le_rfl, holds_word word⟩

/-- whole tokens are taken from a level without rounding -/
theorem holds_taken {n k u : ℕ} (word : n < 2 ^ 32) (word' : k < 2 ^ 32) {a : Float} (h : Holds a.toModel.unpack u)
    (le : u ≤ n * unit) (enough : k * unit ≤ u) : Holds (sub a (ofNat k)).toModel.unpack (u - k * unit) := by
  obtain ⟨d, i, width, range, rest⟩ := exists_difference h word le enough
  have left : u - k * unit = d * 2 ^ i := by omega
  rw [left]
  exact (holds_sub h (holds_word word') width range rest).pack

theorem notNegative_ofUInt64 (n : UInt64) : NotNegative n.toFloat.toModel.unpack :=
  (notNegative_ofNat n.toNat).pack

/-- the nanoseconds of a second, as they stand in the divisor of a span -/
theorem holds_perSecond : ∃ u, 0 < u ∧ Holds (1e9 : Float).toModel.unpack u := by
  have unpacked : (1e9 : Float).toModel.unpack = .finite .positive 8388608000000000 (-23) (by norm_num) := rfl
  have canonical : Canonical 8388608000000000 (-23) := ⟨by norm_num, by norm_num, by norm_num, .inl (by norm_num)⟩
  rw [unpacked]
  exact ⟨_, steps_pos (by norm_num) _, .finite _ canonical⟩

theorem notNegative_seconds (span : ℕ) : NotNegative (seconds span : Float).toModel.unpack := by
  obtain ⟨u, divisor, hu⟩ := holds_perSecond
  have fraction : NotNegative ((UInt64.ofNat (span % perSecond)).toFloat / 1e9).toModel.unpack :=
    ((notNegative_ofUInt64 _).div hu divisor).pack
  exact ((notNegative_ofUInt64 _).add fraction).pack

/-- a level and what it has earned, however that is rounded -/
theorem notNegative_earned {n : ℕ} {a : Float} (level : NotNegative a.toModel.unpack) (span : ℕ) :
    NotNegative (add a (mul (seconds span) (div (ofNat n) (ofNat 60)))).toModel.unpack := by
  have minute : Holds (ofNat 60 : Float).toModel.unpack (60 * unit) := holds_word (by norm_num)
  have divisor : 0 < 60 * unit := Nat.mul_pos (by norm_num) unit_pos
  have rate : NotNegative (div (ofNat n) (ofNat 60) : Float).toModel.unpack :=
    ((notNegative_ofUInt64 _).div minute divisor).pack
  have earned : NotNegative (mul (seconds span) (div (ofNat n) (ofNat 60)) : Float).toModel.unpack :=
    ((notNegative_seconds span).mul rate).pack
  exact (level.add earned).pack

instance : Exact Float where
  within_ofNat word := (within_double_iff word).2 ⟨_, le_rfl, holds_word word⟩
  floor_ofNat {n} word := by
    rw [floor_double word (holds_word word) le_rfl, Nat.mul_div_cancel n unit_pos]
  within_min word a level := within_min_double word level.notNegative
  within_earned word a level span := within_min_double word (notNegative_earned level.notNegative span)
  le_iff word word' a level := by
    obtain ⟨u, le, hu⟩ := (within_double_iff word).1 level
    rw [floor_double word hu le, le_double_iff, le_holds (holds_word word') hu, Nat.le_div_iff_mul_le unit_pos]
  within_sub {n k} word word' a level holds := by
    obtain ⟨u, le, hu⟩ := (within_double_iff word).1 level
    have enough : k * unit ≤ u := (le_holds (holds_word word') hu).1 ((le_double_iff _ _).1 holds)
    exact (within_double_iff word).2 ⟨_, (Nat.sub_le _ _).trans le, holds_taken word word' hu le enough⟩
  floor_sub {n k} word word' a level holds := by
    obtain ⟨u, le, hu⟩ := (within_double_iff word).1 level
    have enough : k * unit ≤ u := (le_holds (holds_word word') hu).1 ((le_double_iff _ _).1 holds)
    have taken := holds_taken word word' hu le enough
    rw [floor_double word taken ((Nat.sub_le _ _).trans le), floor_double word hu le, mul_comm k unit, Nat.sub_mul_div]

end Quantity

end TenantGateway
