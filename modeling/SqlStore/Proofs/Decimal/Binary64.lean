import Mathlib
import SqlStore.Decimal.Basic

/-!
# Bounds on binary64 results

How far rounding moves a magnitude, and how large a result must be before it is infinite. The
bounds are those of one unit in the last of 53 bits, twice what rounding to the nearest may cost.
-/

namespace SqlStore.Decimal

open Float.Model
open Float.Model.UnpackedFloat hiding Sign

/-! ## Rounding -/

theorem shiftRight_mantissa (em : ExtendedMantissa) (k : Nat) :
    (em >>> k).mantissa = em.mantissa / 2 ^ k := by
  induction k with
  | zero => exact (Nat.div_one _).symm
  | succ k ih =>
      change (em >>> k).mantissa / 2 = _
      rw [ih, Nat.div_div_eq_div_mul, Nat.pow_succ]

theorem roundedMantissa_bounds (em : ExtendedMantissa) :
    em.mantissa ≤ em.roundedMantissa ∧ em.roundedMantissa ≤ em.mantissa + 1 := by
  rcases em with ⟨m, roundBit, stickyBit⟩
  cases roundBit <;> cases stickyBit <;>
    simp only [ExtendedMantissa.roundedMantissa, ExtendedMantissa.accuracy,
      Accuracy.roundToNearestEven] <;> omega

theorem targetExponent_eq (m : Nat) (e : Int) :
    Format.binary64.targetExponent (totalExponent m e) = max (m.log2 - 52 + e) (-1074) := by
  simp only [Format.targetExponent, totalExponent, Format.mantissaBits, Format.minExponent]
  norm_num
  omega

theorem shiftToTargetExponent_eq {m k : Nat} {e : Int}
    (shift : max (m.log2 - 52 + e) (-1074) = e + k) :
    shiftToTargetExponent .binary64 m e .exact
      = ((⟨m, false, false⟩ : ExtendedMantissa) >>> k, e + k) := by
  have amount : (e + k - e).toNat = k := by omega
  simp only [shiftToTargetExponent, shiftToExponent, targetExponent_eq, shift, amount,
    ExtendedMantissa.ofMantissaAndAccuracy]

theorem log2_eq_of_bounds {m k : Nat} (low : 2 ^ k ≤ m) (high : m < 2 ^ (k + 1)) :
    m.log2 = k :=
  (Nat.log2_eq_iff (by have := Nat.two_pow_pos k; omega)).2 ⟨low, high⟩

theorem log2_mul_two_pow {n : Nat} (nonzero : n ≠ 0) (k : Nat) :
    (n * 2 ^ k).log2 = n.log2 + k := by
  apply log2_eq_of_bounds
  · rw [Nat.pow_add]
    exact Nat.mul_le_mul_right _ (Nat.log2_self_le nonzero)
  · rw [Nat.add_right_comm, Nat.pow_add]
    exact Nat.mul_lt_mul_of_pos_right Nat.lt_log2_self (Nat.two_pow_pos k)

def roundedAt (m k : Nat) : Nat :=
  ((⟨m, false, false⟩ : ExtendedMantissa) >>> k).roundedMantissa

theorem roundedAt_bounds (m k : Nat) : m / 2 ^ k ≤ roundedAt m k ∧ roundedAt m k ≤ m / 2 ^ k + 1 := by
  have bounds := roundedMantissa_bounds ((⟨m, false, false⟩ : ExtendedMantissa) >>> k)
  rwa [shiftRight_mantissa] at bounds

theorem wide_mantissa {m k : Nat} (bits : m.log2 = k + 52) :
    2 ^ 52 ≤ m / 2 ^ k ∧ m / 2 ^ k < 2 ^ 53 := by
  have nonzero : m ≠ 0 := by
    rintro rfl
    simp at bits
  constructor
  · rw [Nat.le_div_iff_mul_le (Nat.two_pow_pos k), ← Nat.pow_add, Nat.add_comm, ← bits]
    exact Nat.log2_self_le nonzero
  · rw [Nat.div_lt_iff_lt_mul (Nat.two_pow_pos k), ← Nat.pow_add, Nat.add_comm]
    exact (Nat.log2_lt nonzero).1 (by omega)

theorem roundWithAccuracy_eq (s : UnpackedFloat.Sign) {m k : Nat} {e : Int}
    (bits : m.log2 = k + 52) (normal : -1074 ≤ e + k) :
    (roundedAt m k < 2 ^ 53 → ∃ pos,
      roundWithAccuracy .binary64 s m e .exact = .finite s (roundedAt m k) (e + k) pos) ∧
    (roundedAt m k = 2 ^ 53 → ∃ pos,
      roundWithAccuracy .binary64 s m e .exact = .finite s (2 ^ 52) (e + k + 1) pos) := by
  have first := shiftToTargetExponent_eq (m := m) (k := k) (e := e) (by omega)
  have wide : 2 ^ 52 ≤ roundedAt m k := (wide_mantissa bits).1.trans (roundedAt_bounds m k).1
  unfold roundWithAccuracy
  rw [first]
  dsimp only
  rw [← roundedAt]
  generalize roundedAt m k = r at wide ⊢
  constructor
  · intro small
    have whole : r.log2 = 52 := log2_eq_of_bounds wide small
    have second := shiftToTargetExponent_eq (m := r) (k := 0) (e := e + k) (by omega)
    have none : ((⟨r, false, false⟩ : ExtendedMantissa) >>> 0).mantissa = r := rfl
    rw [second]
    dsimp only
    simp only [none, Nat.cast_zero, add_zero]
    rw [dif_neg (by omega)]
    exact ⟨by omega, rfl⟩
  · rintro rfl
    have second := shiftToTargetExponent_eq (m := 2 ^ 53) (k := 1) (e := e + k)
      (by rw [Nat.log2_two_pow]; omega)
    have half : ((⟨2 ^ 53, false, false⟩ : ExtendedMantissa) >>> 1).mantissa = 2 ^ 52 := rfl
    rw [second]
    dsimp only
    simp only [half]
    rw [dif_neg (by decide)]
    exact ⟨by decide, rfl⟩

theorem roundWithAccuracy_wide (s : UnpackedFloat.Sign) {m k : Nat} {e : Int}
    (bits : m.log2 = k + 52) (normal : -1074 ≤ e + k) :
    ∃ r f pos, roundWithAccuracy .binary64 s m e .exact = .finite s r f pos ∧
      2 ^ 52 ≤ r ∧ r < 2 ^ 53 ∧ e + k ≤ f ∧ (r : ℚ) * 2 ^ f ≤ (m + 2 ^ k : ℚ) * 2 ^ e := by
  obtain ⟨short, carried⟩ := roundWithAccuracy_eq s bits normal
  obtain ⟨low, high⟩ := wide_mantissa bits
  have bounds := roundedAt_bounds m k
  generalize roundedAt m k = r at bounds short carried
  have near : r * 2 ^ k ≤ m + 2 ^ k := by
    calc r * 2 ^ k ≤ (m / 2 ^ k + 1) * 2 ^ k := Nat.mul_le_mul_right _ bounds.2
      _ = m / 2 ^ k * 2 ^ k + 2 ^ k := by rw [Nat.add_mul, Nat.one_mul]
      _ ≤ m + 2 ^ k := Nat.add_le_add_right (Nat.div_mul_le_self _ _) _
  have value : (r : ℚ) * 2 ^ (e + k) ≤ (m + 2 ^ k : ℚ) * 2 ^ e := by
    have scaled : (r : ℚ) * 2 ^ k ≤ m + 2 ^ k := by exact_mod_cast near
    rw [zpow_add₀ two_ne_zero, zpow_natCast, mul_comm ((2 : ℚ) ^ e), ← mul_assoc]
    exact mul_le_mul_of_nonneg_right scaled (by positivity)
  rcases Nat.lt_or_ge r (2 ^ 53) with small | large
  · obtain ⟨pos, rounded⟩ := short small
    exact ⟨r, e + k, pos, rounded, by omega, small, le_rfl, value⟩
  · have carry : r = 2 ^ 53 := by omega
    obtain ⟨pos, rounded⟩ := carried carry
    subst carry
    refine ⟨2 ^ 52, e + k + 1, pos, rounded, le_rfl, by decide, by omega, ?_⟩
    refine le_trans (le_of_eq ?_) value
    rw [zpow_add₀ two_ne_zero (e + k)]
    norm_num
    ring

/-! ## Packing -/

theorem unpackSign_packComponents {spec : Format} (s : UnpackedFloat.Sign)
    (e : BitVec spec.exponentBits) (m : BitVec spec.mantissaBitsWithoutImplicit) :
    unpackSign (packComponents spec s e m) = s.toBitVec := by
  ext i inside
  obtain rfl : i = 0 := by omega
  simp [unpackSign, packComponents, BitVec.getLsbD_append, BitVec.getElem_append]

theorem ofBitVec_toBitVec (s : UnpackedFloat.Sign) :
    UnpackedFloat.Sign.ofBitVec s.toBitVec = s := by
  cases s <;> rfl

theorem append_one (m : BitVec 52) : (1#1 ++ m).toNat = 2 ^ 52 + m.toNat := by
  rw [BitVec.toNat_append, ← Nat.shiftLeft_add_eq_or_of_lt m.isLt]
  rfl

theorem isNaN_pack {u : UnpackedFloat} (number : u.isNaN = false) :
    (Float.Model.pack u).isNaN = false := by
  have unpacked (s : UnpackedFloat.Sign) {e : BitVec 11} (proper : e ≠ -1#11) (m : BitVec 52) :
      (UnpackedFloat.unpack .binary64 (packComponents .binary64 s e m)).isNaN = false := by
    unfold UnpackedFloat.unpack
    simp only [unpackMantissa_packComponents, unpackExponent_packComponents, if_neg proper]
    split_ifs <;> rfl
  change (UnpackedFloat.unpack .binary64 (UnpackedFloat.pack .binary64 u)).isNaN = false
  cases u with
  | notANumber => cases number
  | infinity s => cases s <;> rfl
  | zero s => cases s <;> rfl
  | finite s m e pos =>
      unfold UnpackedFloat.pack
      dsimp only
      split_ifs with large normal
      · cases s <;> rfl
      · refine unpacked s (fun full => ?_) _
        have value := congrArg BitVec.toNat full
        rw [BitVec.toNat_ofNat, Nat.mod_eq_of_lt (by omega)] at value
        have top : (-1#11).toNat = 2047 := rfl
        omega
      · exact unpacked s (by decide) _

theorem unpack_pack_zero (s : UnpackedFloat.Sign) :
    (Float.Model.pack (.zero s)).unpack = .zero s := by
  cases s <;> rfl

theorem unpack_pack_infinity (s : UnpackedFloat.Sign) :
    (Float.Model.pack (.infinity s)).unpack = .infinity s := by
  cases s <;> rfl

theorem unpack_pack_finite {s : UnpackedFloat.Sign} {m : Nat} {e : Int} {pos : 0 < m}
    (low : 2 ^ 52 ≤ m) (high : m < 2 ^ 53) (normal : -1074 ≤ e) :
    (Float.Model.pack (.finite s m e pos)).unpack
      = if e ≤ 971 then .finite s m e pos else .infinity s := by
  have bits : m.log2 = 52 := log2_eq_of_bounds low high
  change UnpackedFloat.unpack .binary64 (UnpackedFloat.pack .binary64 (.finite s m e pos)) = _
  unfold UnpackedFloat.pack
  have biased : e + (Format.binary64.exponentBias : Int)
      + (Format.binary64.mantissaBitsWithoutImplicit : Int) = e + 1075 := by
    have bias : (Format.binary64.exponentBias : Int) = 1023 := rfl
    rw [bias]
    change e + 1023 + 52 = _
    omega
  dsimp only
  rw [biased]
  by_cases small : e ≤ 971
  · rw [if_neg (by omega), if_pos (by rw [bits]; rfl), if_pos small]
    have field : (BitVec.ofNat 11 (e + 1075).toNat).toNat = (e + 1075).toNat := by
      rw [BitVec.toNat_ofNat, Nat.mod_eq_of_lt (by omega)]
    have proper : BitVec.ofNat 11 (e + 1075).toNat ≠ -1#11 := by
      intro full
      have value := field.symm.trans (congrArg BitVec.toNat full)
      have top : (-1#11).toNat = 2047 := rfl
      omega
    have nonzero : BitVec.ofNat 11 (e + 1075).toNat ≠ 0#11 := by
      intro zero
      have value := field.symm.trans (congrArg BitVec.toNat zero)
      have none : (0#11).toNat = 0 := rfl
      omega
    have mantissa : (1#1 ++ BitVec.ofNat 52 m).toNat = m := by
      rw [append_one, BitVec.toNat_ofNat]
      omega
    unfold UnpackedFloat.unpack
    simp only [unpackMantissa_packComponents, unpackExponent_packComponents,
      unpackSign_packComponents, if_neg proper, if_neg nonzero, ofBitVec_toBitVec, field, mantissa]
    congr 1
    have bias : (Format.binary64.exponentBias : Int) = 1023 := rfl
    rw [bias]
    push_cast
    omega
  · rw [if_pos (by omega), if_neg small]
    exact unpack_pack_infinity s

/-! ## Magnitudes of results -/

/-- A rounded magnitude in the normal range. Its leading bit stands for at least `2 ^ low`, and it
is not above `high`; where its exponent is too large, it is infinite. -/
def Rounded (s : UnpackedFloat.Sign) (low : Int) (high : ℚ) (x : Float) : Prop :=
  ∃ (m : Nat) (e : Int) (pos : 0 < m), 2 ^ 52 ≤ m ∧ m < 2 ^ 53 ∧ low ≤ e + 52 ∧
    (m : ℚ) * 2 ^ e ≤ high ∧
    x.toModel.unpack = if e ≤ 971 then .finite s m e pos else .infinity s

def overflow : ℚ := 2 ^ (1024 : Int)

theorem overflow_eq {k : Nat} (exponent : k = 1024) : overflow = 2 ^ k := by
  subst exponent
  exact zpow_natCast 2 1024

theorem mul_lt_overflow {q : ℚ} {k e : Int} (lead : q < 2 ^ k) (total : k + e ≤ 1024) :
    q * 2 ^ e < overflow :=
  calc q * 2 ^ e < 2 ^ k * 2 ^ e := mul_lt_mul_of_pos_right lead (by positivity)
    _ = 2 ^ (k + e) := (zpow_add₀ two_ne_zero k e).symm
    _ ≤ overflow := zpow_le_zpow_right₀ (by norm_num) total

def slack : ℚ := 1 + 1 / 2 ^ 52

theorem le_mul_slack {q : ℚ} (pos : 0 ≤ q) : q ≤ q * slack :=
  le_mul_of_one_le_right pos (by norm_num [slack])

theorem mul_slack_lt {n : Nat} (small : n ≤ 2 ^ 100) : (n : ℚ) * slack < overflow := by
  have value : (n : ℚ) ≤ 2 ^ 100 := by exact_mod_cast small
  calc (n : ℚ) * slack ≤ 2 ^ 100 * slack := by gcongr; norm_num [slack]
    _ < 2 ^ (101 : Int) := by norm_num [slack]
    _ < overflow := zpow_lt_zpow_right₀ (by norm_num) (by norm_num)

namespace Rounded

variable {s t : UnpackedFloat.Sign} {low low' : Int} {high high' : ℚ} {x y : Float}

theorem mono (rounded : Rounded s low high x) (lower : low' ≤ low) (higher : high ≤ high') :
    Rounded s low' high' x := by
  obtain ⟨m, e, pos, wide, narrow, least, most, unpacked⟩ := rounded
  exact ⟨m, e, pos, wide, narrow, by omega, most.trans higher, unpacked⟩

theorem finite (rounded : Rounded s low high x) (small : high < overflow) :
    ∃ (m : Nat) (e : Int) (pos : 0 < m), 2 ^ 52 ≤ m ∧ m < 2 ^ 53 ∧ low ≤ e + 52 ∧
      (m : ℚ) * 2 ^ e ≤ high ∧ x.toModel.unpack = .finite s m e pos := by
  obtain ⟨m, e, pos, wide, narrow, least, most, unpacked⟩ := rounded
  refine ⟨m, e, pos, wide, narrow, least, most, unpacked.trans (if_pos ?_)⟩
  by_contra large
  have mantissa : (2 : ℚ) ^ 52 ≤ m := by exact_mod_cast wide
  have exponent : (2 : ℚ) ^ (972 : Int) ≤ 2 ^ e := zpow_le_zpow_right₀ (by norm_num) (by omega)
  have total : overflow ≤ m * 2 ^ e :=
    calc overflow = 2 ^ 52 * 2 ^ (972 : Int) := by
          rw [overflow, ← zpow_natCast, ← zpow_add₀ two_ne_zero]
          rfl
      _ ≤ m * 2 ^ e := mul_le_mul mantissa exponent (by positivity) (by positivity)
  exact absurd (total.trans most) (not_le.2 small)

theorem isFinite (rounded : Rounded s low high x) (small : high < overflow) : x.isFinite := by
  obtain ⟨m, e, pos, -, -, -, -, unpacked⟩ := rounded.finite small
  change x.toModel.unpack.isFinite = true
  rw [unpacked]
  rfl

theorem isNaN (rounded : Rounded s low high x) : x.isNaN = false := by
  obtain ⟨m, e, pos, -, -, -, -, unpacked⟩ := rounded
  change x.toModel.unpack.isNaN = false
  rw [unpacked]
  split <;> rfl

theorem of_round (s : UnpackedFloat.Sign) {m k : Nat} {e : Int} (bits : m.log2 = k + 52)
    (normal : -1074 ≤ e + k) : Rounded s (k + 52 + e) (m * 2 ^ e * slack)
      (.ofModel (.pack (roundWithAccuracy .binary64 s m e .exact))) := by
  obtain ⟨r, f, pos, rounded, wide, narrow, least, most⟩ := roundWithAccuracy_wide s bits normal
  refine ⟨r, f, pos, wide, narrow, by omega, most.trans ?_, ?_⟩
  · have unit : (2 : ℚ) ^ k ≤ m / 2 ^ 52 := by
      rw [le_div_iff₀ (by positivity), ← pow_add, ← bits]
      exact_mod_cast Nat.log2_self_le (by rintro rfl; simp at bits)
    calc (m + 2 ^ k : ℚ) * 2 ^ e ≤ (m + m / 2 ^ 52) * 2 ^ e := by gcongr
      _ = m * 2 ^ e * slack := by rw [slack]; ring
  · change (Float.Model.pack _).unpack = _
    rw [rounded]
    exact unpack_pack_finite wide narrow (by omega)

theorem of_nat (s : UnpackedFloat.Sign) {n : Nat} (nonzero : n ≠ 0) :
    Rounded s n.log2 (n * slack) (.ofModel (.pack (UnpackedFloat.round .binary64 s n 0))) := by
  have target := targetExponent_eq n 0
  unfold UnpackedFloat.round decreaseExponent
  rw [target]
  dsimp only
  rcases Nat.lt_or_ge n.log2 52 with short | long
  · obtain ⟨k, total⟩ : ∃ k, n.log2 + k = 52 := ⟨52 - n.log2, by omega⟩
    have amount : (0 - max ((n.log2 : Int) - 52 + 0) (-1074)).toNat = k := by omega
    rw [amount, Nat.shiftLeft_eq]
    have bits : (n * 2 ^ k).log2 = 0 + 52 := by
      rw [log2_mul_two_pow nonzero]
      omega
    refine (of_round s (k := 0) (e := 0 - (k : Int)) bits (by omega)).mono (by omega) ?_
    have value : ((n * 2 ^ k : Nat) : ℚ) * 2 ^ (0 - (k : Int)) = n := by
      push_cast
      rw [zero_sub, zpow_neg, zpow_natCast, mul_assoc, mul_inv_cancel₀ (by positivity), mul_one]
    rw [value]
  · have amount : (0 - max ((n.log2 : Int) - 52 + 0) (-1074)).toNat = 0 := by omega
    rw [amount, Nat.shiftLeft_zero]
    obtain ⟨k, bits⟩ : ∃ k, n.log2 = k + 52 := ⟨n.log2 - 52, by omega⟩
    refine (of_round s (e := 0) bits (by omega)).mono (by omega) ?_
    norm_num

theorem mul (hx : Rounded s low high x) (hy : Rounded t low' high' y) (small : high < overflow)
    (small' : high' < overflow) (normal : -1022 ≤ low + low') :
    Rounded (s * t) (low + low') (high * high' * slack) (x * y) := by
  obtain ⟨m, e, pos, wide, narrow, least, most, unpacked⟩ := hx.finite small
  obtain ⟨m', e', pos', wide', narrow', least', most', unpacked'⟩ := hy.finite small'
  have product : (x * y).toModel
      = .pack (roundWithAccuracy .binary64 (s * t) (m * m') (e + e') .exact) := by
    change Float.Model.pack (UnpackedFloat.mul .binary64 x.toModel.unpack y.toModel.unpack) = _
    rw [unpacked, unpacked']
    rfl
  have nonzero : m * m' ≠ 0 := (Nat.mul_pos pos pos').ne'
  have bits : 104 ≤ (m * m').log2 := by
    rw [Nat.le_log2 nonzero, show 104 = 52 + 52 from rfl, Nat.pow_add]
    exact Nat.mul_le_mul wide wide'
  obtain ⟨k, total⟩ : ∃ k, (m * m').log2 = k + 52 := ⟨(m * m').log2 - 52, by omega⟩
  have rounded := of_round (s * t) total (e := e + e') (by omega)
  rw [← product] at rounded
  refine rounded.mono (by omega) ?_
  have value : ((m * m' : Nat) : ℚ) * 2 ^ (e + e') = m * 2 ^ e * (m' * 2 ^ e') := by
    push_cast
    rw [zpow_add₀ two_ne_zero]
    ring
  rw [value]
  have nonneg : 0 ≤ slack := by norm_num [slack]
  refine mul_le_mul_of_nonneg_right (mul_le_mul most most' (by positivity) ?_) nonneg
  exact le_trans (by positivity) most

theorem neg (rounded : Rounded s low high x) (normal : -1022 ≤ low) :
    Rounded (-s) low high (-x) := by
  obtain ⟨m, e, pos, wide, narrow, least, most, unpacked⟩ := rounded
  refine ⟨m, e, pos, wide, narrow, least, most, ?_⟩
  change (Float.Model.pack x.toModel.unpack.neg).unpack = _
  rw [unpacked]
  split_ifs with small
  · exact (unpack_pack_finite wide narrow (by omega)).trans (if_pos small)
  · exact unpack_pack_infinity (-s)

theorem isFinite_neg (rounded : Rounded s low high x) (normal : -1022 ≤ low) :
    (-x).isFinite = x.isFinite := by
  obtain ⟨m, e, pos, wide, narrow, least, most, unpacked⟩ := rounded
  change (Float.Model.pack x.toModel.unpack.neg).unpack.isFinite = x.toModel.unpack.isFinite
  rw [unpacked]
  split_ifs with small
  · rw [UnpackedFloat.neg, unpack_pack_finite wide narrow (by omega), if_pos small]
    rfl
  · rw [UnpackedFloat.neg, unpack_pack_infinity]
    rfl

end Rounded

/-! ## Integers and decimals -/

theorem ofInt64_isFinite (i : Int64) : (ofInt64 i).isFinite := by
  have bounds : -2 ^ 63 ≤ i.toInt ∧ i.toInt < 2 ^ 63 := ⟨Int64.le_toInt i, Int64.toInt_lt i⟩
  have finite (s : UnpackedFloat.Sign) {n : Nat} (nonzero : n ≠ 0) (small : n ≤ 2 ^ 63) :
      (Float.ofModel (.pack (UnpackedFloat.round .binary64 s n 0))).isFinite :=
    (Rounded.of_nat s nonzero).isFinite (mul_slack_lt (small.trans (by decide)))
  change (Float.ofModel (.pack (UnpackedFloat.normalize .binary64 i.toInt 0 .positive))).isFinite
  unfold UnpackedFloat.normalize
  split
  · rename_i below
    rw [Int.compare_eq_lt] at below
    exact finite .negative (by omega) (by omega)
  · rfl
  · rename_i above
    rw [Int.compare_eq_gt] at above
    exact finite .positive (by omega) (by omega)

theorem rounded_toFloat {n : Nat} (nonzero : n ≠ 0) (small : n < 2 ^ 64) :
    Rounded .positive n.log2 (n * slack) n.toUInt64.toFloat := by
  have value : n.toUInt64.toNat = n := UInt64.toNat_ofNat_of_lt' small
  have unsigned : n.toUInt64.toFloat
      = .ofModel (.pack (UnpackedFloat.normalize .binary64 (n.toUInt64.toNat : Int) 0 .positive)) := rfl
  rw [unsigned, value, UnpackedFloat.normalize, Int.compare_eq_gt.2 (by omega)]
  exact Rounded.of_nat .positive nonzero

theorem exactlyRepresentablePowersOfTen_eq : ∀ e : Fin 23,
    Float.exactlyRepresentablePowersOfTen[e]
      = .ofModel (.pack (UnpackedFloat.round .binary64 .positive (10 ^ e.val) 0)) := by
  decide

theorem le_mul_pow_of_length {n e k : Nat} (nonzero : n ≠ 0)
    (long : k < (Nat.toDigits 10 n).length + e) : 10 ^ k ≤ n * 10 ^ e := by
  rcases Nat.lt_or_ge e k with short | enough
  · have digits : ¬ (Nat.toDigits 10 n).length ≤ k - e := by omega
    rw [Nat.length_toDigits_le_iff (by decide) (by omega), Nat.not_lt] at digits
    calc 10 ^ k = 10 ^ (k - e) * 10 ^ e := by rw [← Nat.pow_add, Nat.sub_add_cancel short.le]
      _ ≤ n * 10 ^ e := Nat.mul_le_mul_right _ digits
  · calc 10 ^ k ≤ 10 ^ e := Nat.pow_le_pow_right (by decide) enough
      _ ≤ n * 10 ^ e := Nat.le_mul_of_pos_left _ (Nat.pos_of_ne_zero nonzero)

theorem two_pow_le_ten_pow (k : Nat) : 2 ^ (93 * k + 1) ≤ 10 ^ (28 * k + 1) :=
  calc 2 ^ (93 * k + 1) = (2 ^ 93) ^ k * 2 := by rw [← pow_mul, pow_succ]
    _ ≤ (10 ^ 28) ^ k * 10 := Nat.mul_le_mul (Nat.pow_le_pow_left (by decide) k) (by decide)
    _ = 10 ^ (28 * k + 1) := by rw [← pow_mul, pow_succ]

theorem le_log2_of_le {n k : Nat} (le : 2 ^ k ≤ n) : k ≤ n.log2 :=
  (Nat.le_log2 ((Nat.two_pow_pos k).trans_le le).ne').2 le

theorem overflow_le {k : Nat} (large : 309 ≤ k) : overflow ≤ 10 ^ k :=
  calc overflow = 2 ^ (93 * 11 + 1) := overflow_eq rfl
    _ ≤ 10 ^ (28 * 11 + 1) := by exact_mod_cast two_pow_le_ten_pow 11
    _ ≤ 10 ^ k := pow_le_pow_right₀ (by norm_num) large

theorem log2_le_log2 {m n : Nat} (nonzero : m ≠ 0) (le : m ≤ n) : m.log2 ≤ n.log2 :=
  (Nat.le_log2 (by omega)).2 ((Nat.log2_self_le nonzero).trans le)

theorem rounded_infinity {n : Nat} (large : 1024 ≤ n.log2) :
    Rounded .positive n.log2 n infinity := by
  have nonzero : n ≠ 0 := by
    rintro rfl
    simp at large
  obtain ⟨k, bits⟩ : ∃ k, n.log2 = 52 + k := ⟨n.log2 - 52, by omega⟩
  refine ⟨2 ^ 52, k, by decide, le_rfl, by decide, by omega, ?_, ?_⟩
  · have leading := Nat.log2_self_le nonzero
    rw [bits, Nat.pow_add] at leading
    rw [zpow_natCast]
    exact_mod_cast leading
  · rw [if_neg (by omega)]
    rfl

theorem ofScientific_eq {n e : Nat} (nonzero : n ≠ 0) (small : e ≤ 2048) :
    UnpackedFloat.ofScientific .binary64 n e
      = roundWithAccuracy .binary64 .positive (n * 10 ^ e * 2 ^ 53) (-53) .exact := by
  unfold UnpackedFloat.ofScientific
  rw [dif_neg nonzero, if_neg (by norm_num; omega), if_neg (by norm_num; omega),
    if_pos (by omega), UnpackedFloat.mul, Int.toNat_natCast, Nat.shiftLeft_eq, Nat.mul_right_comm]
  rfl

theorem rounded_ofScientific {n e : Nat} (nonzero : n ≠ 0) (small : e ≤ 2048) :
    Rounded .positive (n * 10 ^ e).log2 (n * 10 ^ e * slack)
      (.ofModel (Float.Model.ofScientific n e)) := by
  have whole : n * 10 ^ e ≠ 0 := Nat.mul_ne_zero nonzero (by positivity)
  have bits : (n * 10 ^ e * 2 ^ 53).log2 = (n * 10 ^ e).log2 + 1 + 52 := by
    rw [log2_mul_two_pow whole]
  have rounded := Rounded.of_round .positive bits (e := -53) (by omega)
  rw [← ofScientific_eq nonzero small] at rounded
  refine rounded.mono (by omega) (le_of_eq ?_)
  push_cast
  congr 1
  norm_num [mul_assoc]

theorem ofScaled_rounded {n : Nat} (nonzero : n ≠ 0) (e : Nat) :
    Rounded .positive n.log2 (n * 10 ^ e * slack ^ 3) (ofScaled n e) := by
  have ten : 0 < 10 ^ e := Nat.pow_pos (by decide)
  have larger : n.log2 ≤ (n * 10 ^ e).log2 :=
    log2_le_log2 nonzero (Nat.le_mul_of_pos_right n ten)
  have slack_le (k : Nat) : (n * 10 ^ e : ℚ) * slack ^ k ≤ n * 10 ^ e * slack ^ (k + 1) := by
    rw [pow_succ, ← mul_assoc]
    exact le_mul_slack (by norm_num [slack])
  unfold ofScaled
  dsimp only
  rw [if_neg nonzero]
  split_ifs with top bottom
  · have large : 10 ^ (28 * 11 + 1) ≤ n * 10 ^ e := le_mul_pow_of_length nonzero (by omega)
    have bits := le_log2_of_le ((two_pow_le_ten_pow 11).trans large)
    refine (rounded_infinity bits).mono (by omega) ?_
    push_cast
    calc (n * 10 ^ e : ℚ) = n * 10 ^ e * slack ^ 0 := by rw [pow_zero, mul_one]
      _ ≤ n * 10 ^ e * slack ^ 3 :=
        (slack_le 0).trans ((slack_le 1).trans (slack_le 2))
  · omega
  · have sign : decide ((e : Int) < 0) = false := by simp
    rw [sign, Int.natAbs_natCast, Float.ofScientific]
    split
    · rename_i quick
      obtain ⟨short, few⟩ := quick
      rw [if_neg Bool.false_ne_true]
      have left := rounded_toFloat nonzero (short.trans (by decide))
      have right := Rounded.of_nat .positive ten.ne'
      have place : e < Float.exactlyRepresentablePowersOfTen.size := by
        simp [Float.exactlyRepresentablePowersOfTen]
        omega
      have power : Float.exactlyRepresentablePowersOfTen[e]
          = .ofModel (.pack (UnpackedFloat.round .binary64 .positive (10 ^ e) 0)) :=
        exactlyRepresentablePowersOfTen_eq ⟨e, by omega⟩
      rw [← power] at right
      have bound : 10 ^ e ≤ 2 ^ 100 :=
        (Nat.pow_le_pow_right (by decide) few).trans (by decide : 10 ^ 22 ≤ 2 ^ 100)
      have product := left.mul right (mul_slack_lt (short.le.trans (by decide)))
        (mul_slack_lt bound) (by omega)
      refine product.mono (by omega) (le_of_eq ?_)
      push_cast
      ring
    · rw [if_neg Bool.false_ne_true]
      refine (rounded_ofScientific nonzero (by omega)).mono (by omega) ?_
      calc (n * 10 ^ e : ℚ) * slack = n * 10 ^ e * slack ^ 1 := by rw [pow_one]
        _ ≤ n * 10 ^ e * slack ^ 3 := (slack_le 1).trans (slack_le 2)

/-! ## Saturation -/

theorem roundToInt_eq (s : UnpackedFloat.Sign) (m e : Nat) :
    roundToInt s m e = s.apply (m * 2 ^ e : Nat) := by
  unfold roundToInt decreaseExponent shiftToExponent
  have whole : ((0 : Int) - (e - ((e : Int) - 0).toNat)).toNat = 0 := by omega
  have amount : ((e : Int) - 0).toNat = e := by omega
  dsimp only
  rw [whole, amount, Nat.shiftLeft_eq]
  rfl

theorem ofIntClamp_of_ge {i : Int} (large : Int64.maxValue.toInt < i) :
    Int64.ofIntClamp i = Int64.maxValue := by
  have order : Int64.minValue.toInt < Int64.maxValue.toInt := by decide
  rw [Int64.ofIntClamp, dif_pos (by omega), dif_neg (by omega)]

theorem ofIntClamp_of_le {i : Int} (small : i ≤ Int64.minValue.toInt) :
    Int64.ofIntClamp i = Int64.minValue := by
  rcases Int.lt_or_eq_of_le small with below | equal
  · rw [Int64.ofIntClamp, dif_neg (by omega)]
  · rw [equal, Int64.ofIntClamp_toInt]

theorem toInt64_saturates {s : UnpackedFloat.Sign} {high : ℚ} {x : Float}
    (rounded : Rounded s 63 high x) :
    toInt64 x = match s with
      | .positive => Int64.maxValue
      | .negative => Int64.minValue := by
  obtain ⟨m, e, pos, wide, narrow, least, most, unpacked⟩ := rounded
  refine (congrArg UnpackedFloat.toInt64 unpacked).trans ?_
  split_ifs with finite
  · obtain ⟨k, rfl⟩ : ∃ k : Nat, e = k + 11 := ⟨(e - 11).toNat, by omega⟩
    have large : 2 ^ 63 ≤ m * 2 ^ (k + 11) :=
      calc 2 ^ 63 = 2 ^ 52 * 2 ^ 11 := by decide
        _ ≤ m * 2 ^ (k + 11) := Nat.mul_le_mul wide (Nat.pow_le_pow_right (by decide) (by omega))
    have value := roundToInt_eq s m (k + 11)
    have minimum : Int64.minValue.toInt = -2 ^ 63 := by decide
    have maximum : Int64.maxValue.toInt = 2 ^ 63 - 1 := by decide
    generalize m * 2 ^ (k + 11) = n at large value
    refine (congrArg Int64.ofIntClamp value).trans ?_
    cases s with
    | negative =>
        apply ofIntClamp_of_le
        rw [minimum, UnpackedFloat.Sign.apply]
        omega
    | positive =>
        apply ofIntClamp_of_ge
        rw [maximum, UnpackedFloat.Sign.apply]
        omega
  · cases s
    · exact Int64.ofIntClamp_toInt _
    · exact Int64.ofIntClamp_toInt _

/-! ## What is a number -/

theorem neg_isNaN {x : Float} (number : x.isNaN = false) : (-x).isNaN = false := by
  refine isNaN_pack ?_
  change x.toModel.unpack.isNaN = false at number
  cases unpacked : x.toModel.unpack with
  | notANumber =>
      rw [unpacked] at number
      cases number
  | _ => rfl

theorem roundWithAccuracy_isNaN (s : UnpackedFloat.Sign) (m : Nat) (e : Int) (a : Accuracy) :
    (roundWithAccuracy .binary64 s m e a).isNaN = false := by
  unfold roundWithAccuracy
  dsimp only
  split <;> rfl

theorem div_isNaN {s : UnpackedFloat.Sign} {m : Nat} {e : Int} {pos : 0 < m} {x y : Float}
    (number : x.isNaN = false) (divisor : y.toModel.unpack = .finite s m e pos) :
    (x / y).isNaN = false := by
  refine isNaN_pack ?_
  change x.toModel.unpack.isNaN = false at number
  rw [divisor]
  cases unpacked : x.toModel.unpack with
  | notANumber =>
      rw [unpacked] at number
      cases number
  | finite => exact roundWithAccuracy_isNaN _ _ _ _
  | _ => rfl

end SqlStore.Decimal
