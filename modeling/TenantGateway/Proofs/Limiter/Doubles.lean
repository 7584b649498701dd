/-
Doubles that are not negative, as whole numbers of steps.

Every finite double is a whole number of the least positive one, which is `2 ^ -1074`; `Holds f u` says that an unpacked double is
`u` such steps. Doubles are compared as their steps are (`compare_holds`). The rounding of an operation changes nothing
when the exact result has few enough digits (`round_exact`), which is so for whole numbers (`holds_ofNat`) and for
what is left when whole tokens are taken from no more than `2 ^ 32` (`holds_sub`).
Of the other operations it is enough that they make nothing negative out of what is not (`NotNegative`).
-/
import Mathlib

namespace TenantGateway.Double

open Float.Model Float.Model.UnpackedFloat

/-! ## Canonical forms -/

/-- the mantissa and the exponent that a positive double is unpacked to -/
structure Canonical (m : ℕ) (e : ℤ) : Prop where
  width : m < 2 ^ 53
  least : -1074 ≤ e
  greatest : e ≤ 971
  normal : 2 ^ 52 ≤ m ∨ e = -1074

/-- the exponent that a mantissa and an exponent are rounded to -/
theorem targetExponent_eq (m : ℕ) (e : ℤ) :
    Format.binary64.targetExponent (totalExponent m e) = max (m.log2 + e - 52) (-1074) := by
  unfold Format.targetExponent totalExponent
  have width : (Format.binary64.mantissaBits : ℤ) = 53 := rfl
  have least : Format.binary64.minExponent = -1074 := rfl
  rw [width, least]
  congr 1
  ring

theorem Canonical.target {m : ℕ} {e : ℤ} (h : Canonical m e) (pos : 0 < m) :
    Format.binary64.targetExponent (totalExponent m e) = e := by
  have upper : m.log2 < 53 := (Nat.log2_lt pos.ne').2 h.width
  have least := h.least
  rw [targetExponent_eq]
  rcases h.normal with normal | subnormal
  · have lower : 52 ≤ m.log2 := (Nat.le_log2 pos.ne').2 normal
    omega
  · omega

/-! ## Rounding -/

theorem shiftRight_zeros (m k : ℕ) :
    ((⟨m * 2 ^ k, false, false⟩ : ExtendedMantissa) >>> k) = ⟨m, false, false⟩ := by
  induction k generalizing m with
  | zero =>
    rw [pow_zero, mul_one]
    rfl
  | succ k ih =>
    have once : ((⟨2 * m, false, false⟩ : ExtendedMantissa)).shiftRightOne = ⟨m, false, false⟩ := by
      simp [ExtendedMantissa.shiftRightOne]
    have product : m * 2 ^ (k + 1) = 2 * m * 2 ^ k := by ring
    rw [product]
    calc (⟨2 * m * 2 ^ k, false, false⟩ : ExtendedMantissa) >>> (k + 1)
        = ((⟨2 * m * 2 ^ k, false, false⟩ : ExtendedMantissa) >>> k).shiftRightOne := rfl
      _ = ⟨m, false, false⟩ := by rw [ih, once]

/-- how far to the right the digits of a positive number can go is for its value alone to say -/
theorem log2_mul_two_pow {m : ℕ} (pos : 0 < m) (k : ℕ) : (m * 2 ^ k).log2 = m.log2 + k := by
  have positive : m * 2 ^ k ≠ 0 := (Nat.mul_pos pos (Nat.two_pow_pos k)).ne'
  refine (Nat.log2_eq_iff positive).2 ⟨?_, ?_⟩
  · rw [pow_add]
    exact Nat.mul_le_mul_right _ (Nat.log2_self_le pos.ne')
  · have upper : m < 2 ^ (m.log2 + 1) := Nat.lt_log2_self
    calc m * 2 ^ k < 2 ^ (m.log2 + 1) * 2 ^ k := Nat.mul_lt_mul_of_pos_right upper (Nat.two_pow_pos k)
      _ = 2 ^ (m.log2 + k + 1) := by ring

/-- shifting to a canonical exponent loses nothing if the digits that go are zeros -/
theorem shift_exact {m : ℕ} {e : ℤ} (h : Canonical m e) (pos : 0 < m) (k : ℕ) :
    shiftToTargetExponent Format.binary64 (m * 2 ^ k) (e - k) .exact = (⟨m, false, false⟩, e) := by
  have target : Format.binary64.targetExponent (totalExponent (m * 2 ^ k) (e - k)) = e := by
    have same := h.target pos
    rw [targetExponent_eq] at same ⊢
    rw [log2_mul_two_pow pos]
    push_cast
    rwa [show (m.log2 : ℤ) + k + (e - k) - 52 = m.log2 + e - 52 by ring]
  have amount : (e - (e - k)).toNat = k := by omega
  have back : e - k + (k : ℤ) = e := by ring
  rw [shiftToTargetExponent, target]
  simp only [shiftToExponent, amount, back, ExtendedMantissa.ofMantissaAndAccuracy]
  rw [shiftRight_zeros]

theorem roundWithAccuracy_exact {m : ℕ} {e : ℤ} (h : Canonical m e) (pos : 0 < m) (s : Sign) (k : ℕ) :
    roundWithAccuracy Format.binary64 s (m * 2 ^ k) (e - k) .exact = .finite s m e pos := by
  have again := shift_exact h pos 0
  rw [pow_zero, mul_one, Nat.cast_zero, sub_zero] at again
  have rounded : (⟨m, false, false⟩ : ExtendedMantissa).roundedMantissa = m := rfl
  rw [roundWithAccuracy, shift_exact h pos k]
  simp only [rounded, again]
  rw [dif_neg pos.ne']

/-- a mantissa and an exponent as a number of the least steps -/
def steps (m : ℕ) (e : ℤ) : ℕ :=
  m * 2 ^ (e + 1074).toNat

theorem steps_pos {m : ℕ} (pos : 0 < m) (e : ℤ) : 0 < steps m e :=
  Nat.mul_pos pos (Nat.two_pow_pos _)

/-- the steps of a number as a smaller exponent counts them -/
theorem steps_eq_mul (m : ℕ) {e e' : ℤ} (least : -1074 ≤ e') (le : e' ≤ e) :
    steps m e = m * 2 ^ (e - e').toNat * 2 ^ (e' + 1074).toNat := by
  have exponent : (e + 1074).toNat = (e - e').toNat + (e' + 1074).toNat := by omega
  rw [steps, exponent, pow_add, mul_assoc]

/-- digits that go to the right of a number bring its exponent down -/
theorem eq_mul_of_steps_eq {m m' : ℕ} {e e' : ℤ} (least : -1074 ≤ e) (le : e ≤ e') (same : steps m e = steps m' e') :
    m = m' * 2 ^ (e' - e).toNat := by
  rw [steps_eq_mul m' least le, steps] at same
  exact Nat.eq_of_mul_eq_mul_right (Nat.two_pow_pos _) same

/-- what can be written in a canonical form is rounded to it -/
theorem round_exact {m : ℕ} {e : ℤ} (h : Canonical m e) (pos : 0 < m) (s : Sign) {m' : ℕ} {e' : ℤ} (least : -1074 ≤ e')
    (same : steps m' e' = steps m e) : UnpackedFloat.round Format.binary64 s m' e' = .finite s m e pos := by
  have pos' : 0 < m' := by
    have : 0 < steps m' e' := same ▸ steps_pos pos e
    exact Nat.pos_of_mul_pos_right this
  have target : Format.binary64.targetExponent (totalExponent m' e') = e := by
    have digits := congrArg Nat.log2 same
    rw [steps, steps, log2_mul_two_pow pos', log2_mul_two_pow pos] at digits
    have own := h.target pos
    have least' := h.least
    rw [targetExponent_eq] at own ⊢
    omega
  rw [UnpackedFloat.round, target]
  rcases le_total e' e with below | above
  · have unmoved : decreaseExponent m' e' e = (m', e') := by
      have none : (e' - e).toNat = 0 := by omega
      simp [decreaseExponent, none]
    have mantissa : m' = m * 2 ^ (e - e').toNat := eq_mul_of_steps_eq least below same
    have exponent : e' = e - ((e - e').toNat : ℤ) := by omega
    rw [unmoved]
    calc roundWithAccuracy Format.binary64 s m' e' .exact
        = roundWithAccuracy Format.binary64 s (m * 2 ^ (e - e').toNat) (e - ((e - e').toNat : ℤ)) .exact := by
          rw [← mantissa, ← exponent]
      _ = .finite s m e pos := roundWithAccuracy_exact h pos s _
  · have moved : decreaseExponent m' e' e = (m, e) := by
      have mantissa : m = m' * 2 ^ (e' - e).toNat := eq_mul_of_steps_eq h.least above same.symm
      have exponent : e' - ((e' - e).toNat : ℤ) = e := by omega
      rw [decreaseExponent]
      simp only [Nat.shiftLeft_eq, ← mantissa, exponent]
    have exact := roundWithAccuracy_exact h pos s 0
    rw [pow_zero, mul_one, Nat.cast_zero, sub_zero] at exact
    rw [moved]
    exact exact

/-- a number of at most 53 digits, and zeros after them, has a canonical form -/
theorem exists_canonical {a i : ℕ} (pos : 0 < a) (width : a < 2 ^ 53) (range : i ≤ 2045) :
    ∃ m e, Canonical m e ∧ 0 < m ∧ steps m e = a * 2 ^ i := by
  have digits : a.log2 < 53 := (Nat.log2_lt pos.ne').2 width
  -- as many of the zeros become part of the mantissa as there is room for
  obtain ⟨k, hk⟩ : ∃ k, k = min i (52 - a.log2) := ⟨_, rfl⟩
  have positive : 0 < a * 2 ^ k := Nat.mul_pos pos (Nat.two_pow_pos k)
  refine ⟨a * 2 ^ k, (i - k : ℕ) - 1074, ⟨?_, ?_, ?_, ?_⟩, positive, ?_⟩
  · refine (Nat.log2_lt positive.ne').1 ?_
    rw [log2_mul_two_pow pos]
    omega
  · omega
  · omega
  · rcases le_total i (52 - a.log2) with few | many
    · right
      omega
    · left
      refine (Nat.le_log2 positive.ne').1 ?_
      rw [log2_mul_two_pow pos]
      omega
  · have exponent : (((i - k : ℕ) : ℤ) - 1074 + 1074).toNat = i - k := by omega
    have zeros : k + (i - k) = i := by omega
    rw [steps, exponent, mul_assoc, ← pow_add, zeros]

/-! ## Packing -/

theorem toNat_implicit (mantissa : BitVec 52) : (1#1 ++ mantissa).toNat = 2 ^ 52 + mantissa.toNat := by
  rw [BitVec.toNat_append, ← Nat.shiftLeft_add_eq_or_of_lt mantissa.isLt]
  rfl

theorem implicit_pos (mantissa : BitVec 52) : 0 < (1#1 ++ mantissa).toNat := by
  rw [toNat_implicit]
  omega

theorem toNat_pos {mantissa : BitVec 52} (h : mantissa ≠ 0#52) : 0 < mantissa.toNat :=
  Nat.pos_of_ne_zero fun eq => h (BitVec.eq_of_toNat_eq eq)

/-- the double that a sign and the two other fields encode -/
def parts (s : Sign) (exponent : BitVec 11) (mantissa : BitVec 52) : UnpackedFloat :=
  if exponent = -1#11 then
    if mantissa = 0#52 then .infinity s else .notANumber
  else if exponent = 0#11 then
    if h : mantissa = 0#52 then .zero s
    else .finite s mantissa.toNat (exponent.toNat - 1075 + 1) (toNat_pos h)
  else .finite s (1#1 ++ mantissa).toNat (exponent.toNat - 1075) (implicit_pos mantissa)

theorem unpack_eq_parts (x : Float.Model) :
    x.unpack = parts (Sign.ofBitVec (@unpackSign Format.binary64 x.toBits.toBitVec))
      (@unpackExponent Format.binary64 x.toBits.toBitVec) (@unpackMantissa Format.binary64 x.toBits.toBitVec) := rfl

/-- what is encoded is canonical -/
theorem canonical_parts {s s' : Sign} {exponent : BitVec 11} {mantissa : BitVec 52} {m : ℕ} {e : ℤ} {pos : 0 < m}
    (h : parts s exponent mantissa = .finite s' m e pos) : Canonical m e := by
  have field : exponent.toNat < 2 ^ 11 := exponent.isLt
  have fraction : mantissa.toNat < 2 ^ 52 := mantissa.isLt
  unfold parts at h
  by_cases special : exponent = -1#11
  · rw [if_pos special] at h
    split_ifs at h
  rw [if_neg special] at h
  by_cases small : exponent = 0#11
  · rw [if_pos small] at h
    split_ifs at h
    have bottom : exponent.toNat = 0 := congrArg BitVec.toNat small
    obtain ⟨-, rfl, rfl⟩ := UnpackedFloat.finite.inj h
    exact ⟨by omega, by omega, by omega, .inr (by omega)⟩
  · rw [if_neg small] at h
    have lower : exponent.toNat ≠ 0 := fun eq => small (BitVec.eq_of_toNat_eq eq)
    have upper : exponent.toNat ≠ 2047 := fun eq => special (BitVec.eq_of_toNat_eq eq)
    have width := toNat_implicit mantissa
    obtain ⟨-, rfl, rfl⟩ := UnpackedFloat.finite.inj h
    exact ⟨by omega, by omega, by omega, .inl (by omega)⟩

theorem canonical_unpack {x : Float.Model} {s : Sign} {m : ℕ} {e : ℤ} {pos : 0 < m} (h : x.unpack = .finite s m e pos) :
    Canonical m e :=
  canonical_parts ((unpack_eq_parts x).symm.trans h)

theorem unpackSign_packComponents (s : Sign) (exponent : BitVec 11) (mantissa : BitVec 52) :
    unpackSign (packComponents Format.binary64 s exponent mantissa) = s.toBitVec := by
  have top (bits : BitVec 1) :
      (((bits ++ exponent : BitVec (1 + 11)) ++ mantissa : BitVec (1 + 11 + 52)).extractLsb 63 63).getLsbD 0 = bits.getLsbD 0 := by
    rw [BitVec.getLsbD_extractLsb, BitVec.getLsbD_append, BitVec.getLsbD_append]
    simp
  refine BitVec.eq_of_getLsbD_eq fun i hi => ?_
  obtain rfl : i = 0 := by omega
  exact top s.toBitVec

theorem ofBitVec_toBitVec (s : Sign) : Sign.ofBitVec s.toBitVec = s := by
  cases s <;> rfl

/-- what fields encode, once they are packed -/
theorem unpack_packComponents (s : Sign) (exponent : BitVec 11) (mantissa : BitVec 52) :
    UnpackedFloat.unpack Format.binary64 (packComponents Format.binary64 s exponent mantissa) = parts s exponent mantissa := by
  have sign := congrArg Sign.ofBitVec (unpackSign_packComponents s exponent mantissa)
  rw [ofBitVec_toBitVec] at sign
  calc UnpackedFloat.unpack Format.binary64 (packComponents Format.binary64 s exponent mantissa)
      = parts (Sign.ofBitVec (unpackSign (packComponents Format.binary64 s exponent mantissa)))
          (unpackExponent (packComponents Format.binary64 s exponent mantissa))
          (unpackMantissa (packComponents Format.binary64 s exponent mantissa)) := rfl
    _ = parts s exponent mantissa := by
        rw [sign, unpackExponent_packComponents, unpackMantissa_packComponents]

/-- a canonical double with its exponent in range survives packing -/
theorem unpack_pack_finite {m : ℕ} {e : ℤ} (h : Canonical m e) (pos : 0 < m) (s : Sign) :
    (Float.Model.pack (.finite s m e pos)).unpack = .finite s m e pos := by
  have least := h.least
  have greatest := h.greatest
  have width := h.width
  have bias : (e + Format.binary64.exponentBias + Format.binary64.mantissaBitsWithoutImplicit).toNat = (e + 1075).toNat := by
    have sum : (Format.binary64.exponentBias : ℤ) + Format.binary64.mantissaBitsWithoutImplicit = 1075 := rfl
    omega
  have fits : ¬ 2 ^ 11 ≤ (e + 1075).toNat + 1 := by omega
  have field : (BitVec.ofNat 11 (e + 1075).toNat).toNat = (e + 1075).toNat := by
    rw [BitVec.toNat_ofNat]
    exact Nat.mod_eq_of_lt (by omega)
  have upper : m.log2 < 53 := (Nat.log2_lt pos.ne').2 width
  change UnpackedFloat.unpack Format.binary64 (UnpackedFloat.pack Format.binary64 (.finite s m e pos)) = _
  unfold UnpackedFloat.pack
  simp only [bias]
  rw [if_neg fits]
  by_cases normal : 2 ^ 52 ≤ m
  · have lower : 52 ≤ m.log2 := (Nat.le_log2 pos.ne').2 normal
    have digits : m.log2 + 1 = Format.binary64.mantissaBits := by
      have : Format.binary64.mantissaBits = 53 := rfl
      omega
    rw [if_pos digits, unpack_packComponents]
    have finite : BitVec.ofNat 11 (e + 1075).toNat ≠ -1#11 := by
      intro eq
      have := congrArg BitVec.toNat eq
      rw [field] at this
      have ones : (-1#11 : BitVec 11).toNat = 2047 := rfl
      omega
    have large : BitVec.ofNat 11 (e + 1075).toNat ≠ 0#11 := by
      intro eq
      have := congrArg BitVec.toNat eq
      rw [field] at this
      have zeros : (0#11 : BitVec 11).toNat = 0 := rfl
      omega
    have mantissa : (1#1 ++ BitVec.ofNat 52 m).toNat = m := by
      rw [toNat_implicit, BitVec.toNat_ofNat]
      omega
    unfold parts
    rw [if_neg finite, if_neg large]
    congr 1
    omega
  · have bottom : e = -1074 := h.normal.resolve_left normal
    have short : m.log2 < 52 := (Nat.log2_lt pos.ne').2 (not_le.1 normal)
    have digits : ¬ m.log2 + 1 = Format.binary64.mantissaBits := by
      have : Format.binary64.mantissaBits = 53 := rfl
      omega
    rw [if_neg digits, unpack_packComponents]
    have mantissa : (BitVec.ofNat 52 m).toNat = m := by
      rw [BitVec.toNat_ofNat]
      exact Nat.mod_eq_of_lt (not_le.1 normal)
    have something : BitVec.ofNat 52 m ≠ 0#52 := by
      intro eq
      have := congrArg BitVec.toNat eq
      rw [mantissa] at this
      exact pos.ne' this
    unfold parts
    rw [if_neg (by decide), if_pos rfl, dif_neg something]
    congr 1
    rw [bottom]
    rfl

theorem unpack_pack_zero (s : Sign) : (Float.Model.pack (.zero s)).unpack = .zero s := by
  change UnpackedFloat.unpack Format.binary64 (packComponents Format.binary64 s 0#11 0#52) = _
  rw [unpack_packComponents]
  rfl

/-! ## Steps -/

/-- an unpacked double that is finite and not negative, and how many steps it is -/
inductive Holds : UnpackedFloat → ℕ → Prop
  | zero (s : Sign) : Holds (.zero s) 0
  | finite {m : ℕ} {e : ℤ} (pos : 0 < m) (canonical : Canonical m e) : Holds (.finite .positive m e pos) (steps m e)

/-- the steps that make one -/
@[irreducible] def unit : ℕ := 2 ^ 1074

theorem unit_eq {k : ℕ} (h : k = 1074) : unit = 2 ^ k := by
  subst h
  unfold unit
  rfl

theorem unit_pos : 0 < unit := by
  obtain ⟨k, hk⟩ : ∃ k, k = 1074 := ⟨_, rfl⟩
  rw [unit_eq hk]
  exact Nat.two_pow_pos k

theorem Holds.pack {f : UnpackedFloat} {u : ℕ} (h : Holds f u) : Holds (Float.Model.pack f).unpack u := by
  cases h with
  | zero s =>
    rw [unpack_pack_zero]
    exact .zero s
  | finite pos canonical =>
    rw [unpack_pack_finite canonical]
    exact .finite pos canonical

/-- a larger exponent means more steps, whatever the mantissas are -/
theorem Canonical.steps_lt {m m' : ℕ} {e e' : ℤ} (h : Canonical m e) (h' : Canonical m' e') (lt : e < e') :
    steps m e < steps m' e' := by
  have least := h.least
  have normal : 2 ^ 52 ≤ m' := h'.normal.resolve_right (by omega)
  obtain ⟨k, hk⟩ : ∃ k, (e' + 1074).toNat = (e + 1074).toNat + 1 + k := ⟨(e' + 1074).toNat - (e + 1074).toNat - 1, by omega⟩
  calc steps m e = m * 2 ^ (e + 1074).toNat := rfl
    _ < 2 ^ 53 * 2 ^ (e + 1074).toNat := Nat.mul_lt_mul_of_pos_right h.width (Nat.two_pow_pos _)
    _ = 2 ^ 52 * 2 ^ ((e + 1074).toNat + 1) := by ring
    _ ≤ m' * 2 ^ ((e + 1074).toNat + 1 + k) :=
        Nat.mul_le_mul normal (Nat.pow_le_pow_right (by norm_num) (Nat.le_add_right _ k))
    _ = steps m' e' := by rw [steps, hk]

/-- doubles are compared as their steps are -/
theorem compare_holds {f g : UnpackedFloat} {u v : ℕ} (hf : Holds f u) (hg : Holds g v) :
    f.compare g = some (compare u v) := by
  cases hf with
  | zero s =>
    cases hg with
    | zero s' => rfl
    | @finite m e pos canonical =>
      have : compare 0 (steps m e) = .lt := Nat.compare_eq_lt.2 (steps_pos pos e)
      rw [this]
      rfl
  | @finite m e pos canonical =>
    cases hg with
    | zero s' =>
      have : compare (steps m e) 0 = .gt := Nat.compare_eq_gt.2 (steps_pos pos e)
      rw [this]
      rfl
    | @finite m' e' pos' canonical' =>
      change some ((compare e e').then (compare m m')) = _
      congr 1
      rcases lt_trichotomy e e' with lt | rfl | gt
      · rw [show compare e e' = .lt from Int.compare_eq_lt.2 lt, Nat.compare_eq_lt.2 (canonical.steps_lt canonical' lt)]
        rfl
      · have same : compare e e = .eq := Int.compare_eq_eq.2 rfl
        have scaled : compare (steps m e) (steps m' e) = compare m m' := by
          have scale := Nat.two_pow_pos (e + 1074).toNat
          unfold steps
          rcases lt_trichotomy m m' with lt | rfl | gt
          · rw [Nat.compare_eq_lt.2 lt, Nat.compare_eq_lt.2 (Nat.mul_lt_mul_of_pos_right lt scale)]
          · rw [Nat.compare_eq_eq.2 rfl, Nat.compare_eq_eq.2 rfl]
          · rw [Nat.compare_eq_gt.2 gt, Nat.compare_eq_gt.2 (Nat.mul_lt_mul_of_pos_right gt scale)]
        rw [same, scaled]
        rfl
      · rw [show compare e e' = .gt from Int.compare_eq_gt.2 gt, Nat.compare_eq_gt.2 (canonical'.steps_lt canonical gt)]
        rfl

theorem le_holds {f g : UnpackedFloat} {u v : ℕ} (hf : Holds f u) (hg : Holds g v) : f.le g = true ↔ u ≤ v := by
  unfold UnpackedFloat.le
  rw [compare_holds hf hg]
  exact Nat.isLE_compare

/-! ## Whole numbers -/

/-- rounding a positive whole number of steps that has a canonical form -/
theorem holds_round {m : ℕ} {e : ℤ} (least : -1074 ≤ e) {a i : ℕ} (width : a < 2 ^ 53) (range : i ≤ 2045) (pos : 0 < a)
    (same : steps m e = a * 2 ^ i) : Holds (UnpackedFloat.round Format.binary64 .positive m e) (a * 2 ^ i) := by
  obtain ⟨m', e', canonical, pos', value⟩ := exists_canonical pos width range
  rw [round_exact canonical pos' .positive least (same.trans value.symm), ← value]
  exact .finite pos' canonical

theorem normalize_positive {k : ℕ} {e : ℤ} (positive : (0 : ℤ) < k) :
    UnpackedFloat.normalize Format.binary64 k e .positive = UnpackedFloat.round Format.binary64 .positive k e := by
  unfold UnpackedFloat.normalize
  rw [show compare (k : ℤ) 0 = .gt from Int.compare_eq_gt.2 positive]
  rfl

/-- a difference that has a canonical form, or none at all -/
theorem holds_normalize {m : ℤ} {e : ℤ} (least : -1074 ≤ e) {a i : ℕ} (width : a < 2 ^ 53) (range : i ≤ 2045)
    (same : m * 2 ^ (e + 1074).toNat = ((a * 2 ^ i : ℕ) : ℤ)) :
    Holds (UnpackedFloat.normalize Format.binary64 m e .positive) (a * 2 ^ i) := by
  have scale : (0 : ℤ) < 2 ^ (e + 1074).toNat := by positivity
  rcases Nat.eq_zero_or_pos a with rfl | pos
  · have nothing : m = 0 := by
      rw [zero_mul, Nat.cast_zero] at same
      exact (mul_eq_zero.1 same).resolve_right scale.ne'
    rw [nothing, zero_mul]
    exact .zero .positive
  · have positive : 0 < m := by
      have : (0 : ℤ) < ((a * 2 ^ i : ℕ) : ℤ) := by exact_mod_cast Nat.mul_pos pos (Nat.two_pow_pos i)
      exact (mul_pos_iff_of_pos_right scale).1 (same ▸ this)
    obtain ⟨k, rfl⟩ := Int.eq_ofNat_of_zero_le positive.le
    have same' : steps k e = a * 2 ^ i := by
      unfold steps
      exact_mod_cast same
    rw [normalize_positive positive]
    exact holds_round least width range pos same'

theorem holds_ofNat {n : ℕ} (small : n < 2 ^ 53) : Holds (UnpackedFloat.ofNat Format.binary64 n) (n * unit) := by
  obtain ⟨k, hk⟩ : ∃ k, k = 1074 := ⟨_, rfl⟩
  have exponent : ((0 : ℤ) + 1074).toNat = k := by omega
  rw [unit_eq hk]
  refine holds_normalize (by norm_num) small (by omega) ?_
  rw [exponent, Nat.cast_mul, Nat.cast_pow]
  rfl

/-- moving to a smaller exponent keeps the steps -/
theorem decreaseExponent_steps (m : ℕ) {e e' : ℤ} (least : -1074 ≤ e') (le : e' ≤ e) :
    (decreaseExponent m e e').1 * 2 ^ (e' + 1074).toNat = steps m e := by
  unfold decreaseExponent
  dsimp only
  rw [steps_eq_mul m least le, Nat.shiftLeft_eq]

/-- two positive doubles are brought to the smaller of their exponents to be subtracted -/
theorem sub_finite {m m' : ℕ} {e e' : ℤ} (pos : 0 < m) (pos' : 0 < m') :
    UnpackedFloat.sub Format.binary64 (.finite .positive m e pos) (.finite .positive m' e' pos') =
      UnpackedFloat.normalize Format.binary64
        (((decreaseExponent m e (min e e')).1 : ℤ) - ((decreaseExponent m' e' (min e e')).1 : ℤ)) (min e e') .positive :=
  rfl

/-- a difference is exact if it has a canonical form -/
theorem holds_sub {f g : UnpackedFloat} {u v a i : ℕ} (hf : Holds f u) (hg : Holds g v) (width : a < 2 ^ 53) (range : i ≤ 2045)
    (same : u = v + a * 2 ^ i) : Holds (UnpackedFloat.sub Format.binary64 f g) (a * 2 ^ i) := by
  cases hf with
  | zero s =>
    obtain ⟨nothing, none⟩ : v = 0 ∧ a * 2 ^ i = 0 := by omega
    rw [none]
    cases hg with
    | zero s' =>
      unfold UnpackedFloat.sub
      dsimp only
      split_ifs <;> exact .zero _
    | finite pos' canonical' => exact absurd nothing (steps_pos pos' _).ne'
  | @finite m e pos canonical =>
    cases hg with
    | zero s' =>
      rw [Nat.zero_add] at same
      rw [← same]
      exact .finite pos canonical
    | @finite m' e' pos' canonical' =>
      have least : -1074 ≤ min e e' := le_min canonical.least canonical'.least
      have minuend := decreaseExponent_steps m least (min_le_left e e')
      have subtrahend := decreaseExponent_steps m' least (min_le_right e e')
      rw [sub_finite]
      refine holds_normalize least width range ?_
      rw [sub_mul, sub_eq_iff_eq_add']
      rw [← minuend, ← subtrahend] at same
      exact_mod_cast same

/-- what is left of a number below `2 ^ 32` when a whole number is taken from it has a canonical form -/
theorem exists_difference {f : UnpackedFloat} {u n k : ℕ} (h : Holds f u) (word : n < 2 ^ 32) (le : u ≤ n * unit)
    (holds : k * unit ≤ u) : ∃ a i, a < 2 ^ 53 ∧ i ≤ 2045 ∧ u = k * unit + a * 2 ^ i := by
  cases h with
  | zero s =>
    have nothing : k * unit = 0 := Nat.le_zero.1 holds
    exact ⟨0, 0, by norm_num, by norm_num, by simp [nothing]⟩
  | @finite m e pos canonical =>
    obtain ⟨w, hw⟩ : ∃ w, w = 1074 := ⟨_, rfl⟩
    have least := canonical.least
    rw [unit_eq hw] at le holds ⊢
    unfold steps at le holds ⊢
    rcases le_or_gt e 0 with fraction | whole
    · -- a whole number is a whole number of the steps that the mantissa counts
      obtain ⟨j, hj⟩ : ∃ j, w = j + (e + 1074).toNat := ⟨w - (e + 1074).toNat, by omega⟩
      rw [hj, pow_add, ← mul_assoc] at holds ⊢
      have less : k * 2 ^ j ≤ m := Nat.le_of_mul_le_mul_right holds (Nat.two_pow_pos _)
      have width := canonical.width
      refine ⟨m - k * 2 ^ j, (e + 1074).toNat, by omega, by omega, ?_⟩
      rw [← add_mul, Nat.add_sub_cancel' less]
    · -- larger numbers have larger exponents
      exfalso
      have normal : 2 ^ 52 ≤ m := canonical.normal.resolve_right (by omega)
      obtain ⟨j, hj⟩ : ∃ j, (e + 1074).toNat = j + w := ⟨(e + 1074).toNat - w, by omega⟩
      rw [hj, pow_add, ← mul_assoc] at le
      have bounded : m * 2 ^ j ≤ n := Nat.le_of_mul_le_mul_right le (Nat.two_pow_pos _)
      have grown : m ≤ m * 2 ^ j := Nat.le_mul_of_pos_right m (Nat.two_pow_pos j)
      omega

/-! ## Whole parts -/

theorem shiftRight_mantissa (em : ExtendedMantissa) (k : ℕ) : (em >>> k).mantissa = em.mantissa / 2 ^ k := by
  induction k generalizing em with
  | zero => exact (Nat.div_one _).symm
  | succ k ih =>
    have last : (em >>> (k + 1)).mantissa = (em >>> k).mantissa / 2 := rfl
    rw [last, ih, Nat.div_div_eq_div_mul, pow_succ]

theorem roundToInt_steps (m : ℕ) {e : ℤ} (least : -1074 ≤ e) :
    roundToInt .positive m e = ((steps m e / unit : ℕ) : ℤ) := by
  have value : roundToInt .positive m e = ((m * 2 ^ e.toNat / 2 ^ (-e).toNat : ℕ) : ℤ) := by
    have amount : (e - 0).toNat = e.toNat := by rw [sub_zero]
    have amount' : (0 - (e - (e.toNat : ℤ))).toNat = (-e).toNat := by omega
    unfold roundToInt decreaseExponent shiftToExponent
    simp only [amount, amount', shiftRight_mantissa, Nat.shiftLeft_eq]
    rfl
  rw [value, steps]
  congr 1
  rcases le_total 0 e with whole | fraction
  · have none : (-e).toNat = 0 := by omega
    have exponent : (e + 1074).toNat = e.toNat + 1074 := by omega
    obtain ⟨k, hk⟩ : ∃ k, k = 1074 := ⟨_, rfl⟩
    rw [none, pow_zero, Nat.div_one, exponent, ← hk, pow_add, ← mul_assoc, unit_eq hk, Nat.mul_div_cancel _ (Nat.two_pow_pos _)]
  · have none : e.toNat = 0 := by omega
    have digits : (-e).toNat + (e + 1074).toNat = 1074 := by omega
    rw [none, pow_zero, mul_one, unit_eq digits, pow_add, Nat.mul_div_mul_right _ _ (Nat.two_pow_pos _)]

theorem toInt_holds {f : UnpackedFloat} {u : ℕ} (h : Holds f u) : (f.toInt 0 (UInt64.size - 1)).toNat = u / unit := by
  cases h with
  | zero s => exact (Nat.zero_div unit).symm
  | @finite m e pos canonical =>
    change (roundToInt .positive m e).toNat = _
    rw [roundToInt_steps m canonical.least, Int.toNat_natCast]

/-- the whole part of a double that is not too large -/
theorem toUInt64_holds {f : UnpackedFloat} {u : ℕ} (h : Holds f u) (small : u / unit < 2 ^ 64) :
    f.toUInt64.toNat = u / unit := by
  unfold UnpackedFloat.toUInt64
  rw [toInt_holds h]
  exact UInt64.toNat_ofNatClamp_of_lt small

/-- and of one that is -/
theorem toUInt64_holds_of_le {f : UnpackedFloat} {u : ℕ} (h : Holds f u) (large : 2 ^ 64 ≤ u / unit) :
    f.toUInt64.toNat = 2 ^ 64 - 1 := by
  unfold UnpackedFloat.toUInt64
  rw [toInt_holds h]
  exact UInt64.toNat_ofNatClamp_of_le large

/-! ## Sides of zero -/

/-- a double that is no number at all, or none on the other side of zero -/
inductive OnSide (s : Sign) : UnpackedFloat → Prop
  | notANumber : OnSide s .notANumber
  | infinity : OnSide s (.infinity s)
  | zero (s' : Sign) : OnSide s (.zero s')
  | finite {m : ℕ} {e : ℤ} (pos : 0 < m) : OnSide s (.finite s m e pos)

/-- none below zero -/
abbrev NotNegative : UnpackedFloat → Prop := OnSide .positive

theorem onSide_parts (s : Sign) (exponent : BitVec 11) (mantissa : BitVec 52) : OnSide s (parts s exponent mantissa) := by
  unfold parts
  split_ifs
  · exact .infinity
  · exact .notANumber
  · exact .zero _
  · exact .finite _
  · exact .finite _

theorem OnSide.pack {s : Sign} {f : UnpackedFloat} (h : OnSide s f) : OnSide s (Float.Model.pack f).unpack := by
  have packed (exponent : BitVec 11) (mantissa : BitVec 52) :
      OnSide s (UnpackedFloat.unpack Format.binary64 (packComponents Format.binary64 s exponent mantissa)) := by
    rw [unpack_packComponents]
    exact onSide_parts s exponent mantissa
  cases h with
  | notANumber => exact .notANumber
  | infinity => exact packed _ _
  | zero s =>
    rw [unpack_pack_zero]
    exact .zero s
  | @finite m e pos =>
    change OnSide s (UnpackedFloat.unpack Format.binary64 (UnpackedFloat.pack Format.binary64 (.finite s m e pos)))
    unfold UnpackedFloat.pack
    dsimp only
    split_ifs <;> exact packed _ _

theorem onSide_roundWithAccuracy (s : Sign) (m : ℕ) (e : ℤ) (accuracy : Accuracy) :
    OnSide s (roundWithAccuracy Format.binary64 s m e accuracy) := by
  unfold roundWithAccuracy
  dsimp only
  split_ifs
  · exact .zero _
  · exact .finite _

theorem notNegative_normalize {m : ℤ} (nonneg : 0 ≤ m) (e : ℤ) (s : Sign) :
    NotNegative (UnpackedFloat.normalize Format.binary64 m e s) := by
  unfold UnpackedFloat.normalize
  split
  · rename_i below
    exact absurd nonneg (not_le.2 (Int.compare_eq_lt.1 below))
  · exact .zero s
  · exact onSide_roundWithAccuracy _ _ _ _

theorem notNegative_ofNat (n : ℕ) : NotNegative (UnpackedFloat.ofNat Format.binary64 n) :=
  notNegative_normalize (Int.natCast_nonneg n) 0 .positive

theorem NotNegative.add {f g : UnpackedFloat} (hf : NotNegative f) (hg : NotNegative g) :
    NotNegative (UnpackedFloat.add Format.binary64 f g) := by
  cases hf with
  | notANumber => exact .notANumber
  | infinity => cases hg <;> first | exact .infinity | exact .notANumber
  | zero s =>
    cases hg with
    | notANumber => exact .notANumber
    | infinity => exact .infinity
    | zero s' =>
      unfold UnpackedFloat.add
      dsimp only
      split_ifs <;> exact .zero _
    | finite pos => exact .finite pos
  | finite pos =>
    cases hg with
    | notANumber => exact .notANumber
    | infinity => exact .infinity
    | zero s' => exact .finite pos
    | finite pos' => exact notNegative_normalize (Int.add_nonneg (Int.natCast_nonneg _) (Int.natCast_nonneg _)) _ _

theorem NotNegative.mul {f g : UnpackedFloat} (hf : NotNegative f) (hg : NotNegative g) :
    NotNegative (UnpackedFloat.mul Format.binary64 f g) := by
  cases hf with
  | notANumber => exact .notANumber
  | infinity => cases hg <;> first | exact .infinity | exact .notANumber
  | zero s => cases hg <;> first | exact .zero _ | exact .notANumber
  | finite pos =>
    cases hg with
    | notANumber => exact .notANumber
    | infinity => exact .infinity
    | zero s' => exact .zero _
    | finite pos' => exact onSide_roundWithAccuracy _ _ _ _

/-- a quotient by a positive number -/
theorem NotNegative.div {f g : UnpackedFloat} {v : ℕ} (hf : NotNegative f) (hg : Holds g v) (divisor : 0 < v) :
    NotNegative (UnpackedFloat.div Format.binary64 f g) := by
  cases hg with
  | zero s => exact absurd divisor (lt_irrefl 0)
  | finite pos canonical =>
    cases hf with
    | notANumber => exact .notANumber
    | infinity => exact .infinity
    | zero s => exact .zero _
    | finite pos' => exact onSide_roundWithAccuracy _ _ _ _

/-- what is at least zero is not negative -/
theorem notNegative_of_zero_le {f g : UnpackedFloat} (hg : Holds g 0) (le : g.le f = true) : NotNegative f := by
  generalize nothing : (0 : ℕ) = u at hg
  cases hg with
  | finite pos canonical => exact absurd nothing.symm (steps_pos pos _).ne'
  | zero s =>
    cases f with
    | notANumber => exact .notANumber
    | infinity s' => cases s' with
      | negative => cases le
      | positive => exact .infinity
    | zero s' => exact .zero s'
    | finite s' m e pos => cases s' with
      | negative => cases le
      | positive => exact .finite pos

/-- what is not negative and at most a number of steps is a number of steps -/
theorem exists_holds_of_le {x : Float.Model} (h : NotNegative x.unpack) {g : UnpackedFloat} {v : ℕ} (hg : Holds g v)
    (le : x.unpack.le g = true) : ∃ u ≤ v, Holds x.unpack u := by
  suffices ∃ u, Holds x.unpack u by
    obtain ⟨u, hu⟩ := this
    exact ⟨u, (le_holds hu hg).1 le, hu⟩
  generalize unpacked : x.unpack = f at h le
  cases h with
  | notANumber => cases le
  | infinity => cases hg <;> cases le
  | zero s => exact ⟨0, .zero s⟩
  | finite pos => exact ⟨_, .finite pos (canonical_unpack unpacked)⟩

end TenantGateway.Double
