import SqlStore.Json.Basic
import SqlStore.Proofs.Decimal.Binary64
import SqlStore.Proofs.Decimal.Value

namespace SqlStore.Json

open Decimal (Numeral Digits Magnitude Rounded slack overflow ofScaled digitsValue signedValue)

/-! ## Gathering -/

theorem gather_taken (n : Nat) (ds : List Char) :
    ∃ taken, ds = taken ++ (gather n ds).2 ∧ (gather n ds).1 = Nat.ofDigitChars 10 taken n := by
  induction ds generalizing n with
  | nil => exact ⟨[], rfl, rfl⟩
  | cons d ds ih =>
      rw [gather]
      split
      · obtain ⟨taken, split, gathered⟩ := ih (10 * n + (d.toNat - '0'.toNat))
        exact ⟨d :: taken, congrArg (d :: ·) split, gathered⟩
      · exact ⟨[], rfl, rfl⟩

theorem gather_of_le {n : Nat} {ds : List Char} (small : Nat.ofDigitChars 10 ds n ≤ gatherLimit) :
    gather n ds = (Nat.ofDigitChars 10 ds n, []) := by
  induction ds generalizing n with
  | nil => rfl
  | cons d ds ih =>
      rw [Nat.ofDigitChars_cons] at small ⊢
      rw [gather]
      rw [if_pos ((Decimal.le_ofDigitChars ds _).trans small)]
      exact ih small

/-! ## Scaling -/

theorem ten_pow_slack_lt {e : Nat} (small : e ≤ 308) :
    (10 ^ e : ℚ) * slack ^ 3 < overflow := by
  have factor : slack ^ 3 ≤ (111 / 100) ^ 4 := by norm_num [slack]
  have base : (10 ^ 77 * (111 / 100) : ℚ) < 2 ^ 256 := by norm_num
  calc (10 ^ e : ℚ) * slack ^ 3 ≤ 10 ^ (77 * 4) * (111 / 100) ^ 4 := by
        gcongr
        · norm_num [slack]
        · norm_num
    _ = (10 ^ 77 * (111 / 100)) ^ 4 := by rw [pow_mul, mul_pow]
    _ < (2 ^ 256) ^ 4 := pow_lt_pow_left₀ base (by positivity) (by decide)
    _ = overflow := by rw [Decimal.overflow_eq (k := 256 * 4) rfl, pow_mul]

theorem powerOfTen_rounded (e : Nat) :
    Rounded .positive 0 (10 ^ e * slack ^ 3) (ofScaled 1 e) := by
  have rounded := Decimal.ofScaled_rounded one_ne_zero e
  rwa [Nat.cast_one, one_mul] at rounded

theorem scale?_negative {x : Float} {e : Int} (number : x.isNaN = false) (negative : e < 0) :
    ∃ y, scale? x e = some y ∧ y.isNaN = false := by
  have divided {x : Float} (number : x.isNaN = false) {k : Nat} (small : k ≤ 308) :
      (x / ofScaled 1 k).isNaN = false := by
    obtain ⟨m, e, pos, -, -, -, -, unpacked⟩ :=
      (powerOfTen_rounded k).finite (ten_pow_slack_lt small)
    exact Decimal.div_isNaN number unpacked
  induction size : e.natAbs using Nat.strongRecOn generalizing x e with
  | ind size ih =>
      rw [scale?, if_neg (by omega), if_neg (by omega)]
      split
      · obtain ⟨k, rfl⟩ : ∃ k : Nat, e = -k := ⟨e.natAbs, by omega⟩
        rw [neg_neg]
        exact ⟨_, rfl, divided number (by omega)⟩
      · split
        · exact ⟨x, rfl, number⟩
        · exact ih (e + 308).natAbs (by omega) (divided number le_rfl) (by omega) rfl

theorem scale?_zero (e : Int) : ∃ y, scale? (ofScaled 0 0) e = some y ∧ y.isNaN = false := by
  have zero : ofScaled 0 0 = .ofModel (.pack (.zero .positive)) := by decide
  have equal : (ofScaled 0 0 == Float.ofNat 0) = true := by decide
  have number : (ofScaled 0 0).isNaN = false := by decide
  rcases lt_or_ge e 0 with negative | nonneg
  · exact scale?_negative number negative
  · by_cases large : 308 < e
    · rw [scale?, if_pos large, if_pos equal]
      exact ⟨_, rfl, number⟩
    · obtain ⟨k, rfl⟩ := Int.eq_ofNat_of_zero_le nonneg
      obtain ⟨m, f, pos, -, -, -, -, unpacked⟩ :=
        (powerOfTen_rounded k).finite (ten_pow_slack_lt (by omega))
      have product : (ofScaled 0 0 * ofScaled 1 k).toModel.unpack = .zero .positive := by
        change (Float.Model.pack (.mul .binary64 (ofScaled 0 0).toModel.unpack _)).unpack = _
        rw [unpacked, zero, Decimal.unpack_pack_zero]
        exact Decimal.unpack_pack_zero _
      have finite : (ofScaled 0 0 * ofScaled 1 k).isInf = false :=
        congrArg Float.Model.UnpackedFloat.isInf product
      rw [scale?, if_neg large, if_pos nonneg]
      dsimp only
      rw [finite, if_neg Bool.false_ne_true]
      exact ⟨_, rfl, congrArg Float.Model.UnpackedFloat.isNaN product⟩

theorem scale?_of_lt {all : Nat} {e : Int} (nonzero : all ≠ 0)
    (small : (all : ℚ) * 10 ^ e * slack ^ 7 < overflow) :
    ∃ y, scale? (ofScaled all 0) e = some y ∧ y.isNaN = false := by
  have left := Decimal.ofScaled_rounded nonzero 0
  rw [pow_zero, mul_one] at left
  rcases lt_or_ge e 0 with negative | nonneg
  · exact scale?_negative left.isNaN negative
  obtain ⟨k, rfl⟩ := Int.eq_ofNat_of_zero_le nonneg
  rw [zpow_natCast] at small
  have least : (1 : ℚ) ≤ all := by exact_mod_cast Nat.one_le_iff_ne_zero.2 nonzero
  have bounded : k ≤ 308 := by
    by_contra large
    have total : overflow ≤ all * 10 ^ k * slack ^ 7 :=
      calc overflow ≤ 10 ^ k := Decimal.overflow_le (by omega)
        _ ≤ all * 10 ^ k := le_mul_of_one_le_left (by positivity) least
        _ ≤ all * 10 ^ k * slack ^ 7 :=
          le_mul_of_one_le_right (by positivity) (by norm_num [slack])
    exact absurd total (not_le.2 small)
  have leftSmall : (all : ℚ) * slack ^ 3 < overflow := by
    refine lt_of_le_of_lt ?_ small
    have more : slack ^ 3 ≤ slack ^ 7 := pow_le_pow_right₀ (by norm_num [slack]) (by decide)
    have ten : (1 : ℚ) ≤ 10 ^ k := one_le_pow₀ (by norm_num)
    calc (all : ℚ) * slack ^ 3 ≤ all * slack ^ 7 := by gcongr
      _ ≤ all * 10 ^ k * slack ^ 7 := by
        gcongr
        · norm_num [slack]
        · exact le_mul_of_one_le_right all.cast_nonneg ten
  have product := left.mul (powerOfTen_rounded k) leftSmall (ten_pow_slack_lt bounded) (by omega)
  have value : (all : ℚ) * slack ^ 3 * (10 ^ k * slack ^ 3) * slack = all * 10 ^ k * slack ^ 7 := by
    ring
  rw [value] at product
  obtain ⟨m, f, pos, -, -, -, -, unpacked⟩ := product.finite small
  have finite : (ofScaled all 0 * ofScaled 1 k).isInf = false :=
    congrArg Float.Model.UnpackedFloat.isInf unpacked
  rw [scale?, if_neg (by omega), if_pos nonneg]
  dsimp only
  rw [finite, if_neg Bool.false_ne_true]
  exact ⟨_, rfl, product.isNaN⟩

/-! ## Numerals -/

theorem magnitude?_scaled {n : Numeral} (short : n.whole.length ≤ 16)
    (digits : ∀ c ∈ n.whole, c.isDigit)
    (exponent : ∀ e, n.exponent = some e → digitsValue e.digits < 2 ^ 31) :
    ∃ (all : Nat) (e : Int), (all : ℚ) * 10 ^ e ≤ n.value ∧ magnitude? n = scale? (ofScaled all 0) e := by
  have whole : gather 0 n.whole = (digitsValue n.whole, []) := by
    apply gather_of_le
    calc digitsValue n.whole ≤ 10 ^ n.whole.length := (Decimal.digitsValue_lt digits).le
      _ ≤ 10 ^ 16 := Nat.pow_le_pow_right (by decide) short
      _ ≤ gatherLimit := by decide
  obtain ⟨taken, split, gathered⟩ := gather_taken (digitsValue n.whole) n.fraction
  rcases read : gather (digitsValue n.whole) n.fraction with ⟨all, unread⟩
  rw [read] at split gathered
  dsimp only at split gathered
  have length := congrArg List.length split
  rw [List.length_append] at length
  have shift : ((([] : List Char).length : Int)
      - ((n.fraction.length - unread.length : Nat) : Int)) = -taken.length := by
    rw [List.length_nil]
    omega
  -- Digits that are left unread only add to the value.
  have value (k : Int) : (all : ℚ) * 10 ^ (-taken.length + k)
      ≤ digitsValue (n.whole ++ n.fraction) * 10 ^ (k - n.fraction.length) := by
    have longer : all * 10 ^ unread.length ≤ digitsValue (n.whole ++ n.fraction) := by
      rw [split, digitsValue, Nat.ofDigitChars_append, Nat.ofDigitChars_append, gathered]
      exact Decimal.mul_pow_le_ofDigitChars _ _
    refine le_trans (le_of_eq ?_)
      (mul_le_mul_of_nonneg_right (Nat.cast_le.2 longer) (by positivity))
    exact (Decimal.scaled_zeros _ _ (by omega)).symm
  rw [magnitude?, whole]
  dsimp only
  rw [read]
  dsimp only
  rw [shift, Numeral.value, Numeral.power]
  cases written : n.exponent with
  | none =>
      have bound := value 0
      rw [add_zero] at bound
      exact ⟨_, _, bound, rfl⟩
  | some e =>
      have read : exponentValue? e = some (signedValue e.sign e.digits) :=
        if_pos (exponent e written)
      dsimp only
      rw [read]
      exact ⟨_, _, value _, rfl⟩

theorem numberLayout_whole (negative : Bool) (d : Digits) :
    (numberLayout.numeral negative d).whole.length ≤ 16 := by
  rw [Decimal.Layout.numeral]
  dsimp only
  split
  · rename_i positional
    simp only [Decimal.Layout.isPositional, numberLayout, Bool.and_eq_true,
      decide_eq_true_eq] at positional
    split
    · simp
    · split
      · simp only [List.length_append, List.length_replicate]
        omega
      · simp only [List.length_take]
        omega
  · simp only [List.length_take]
    omega

theorem numberLayout_notInteger (negative : Bool) {d : Digits} (nonempty : d.digits ≠ []) :
    ¬ ((numberLayout.numeral negative d).fraction.isEmpty ∧
      (numberLayout.numeral negative d).exponent.isNone) := by
  rw [Decimal.Layout.numeral]
  dsimp only
  split
  · split
    · simp [nonempty]
    · split
      · simp [numberLayout]
      · rename_i long
        simp only [List.isEmpty_iff, List.drop_eq_nil_iff, not_and]
        omega
  · simp

theorem magnitude?_numeral {d : Digits} (proper : d.Proper) (small : d.value * slack ^ 7 < overflow)
    (negative : Bool) :
    ∃ y, magnitude? (numberLayout.numeral negative d) = some y ∧ y.isNaN = false := by
  have wellFormed := numberLayout.numeral_wellFormed negative proper
  have value := numberLayout.numeral_value negative proper.nonempty
  have whole := numberLayout_whole negative d
  have written := @Decimal.Layout.numeral_exponent numberLayout negative d
  generalize numberLayout.numeral negative d = n at wellFormed value whole written ⊢
  have factor : (1 : ℚ) ≤ slack ^ 7 := by norm_num [slack]
  by_cases fits : ∀ e, n.exponent = some e → digitsValue e.digits < 2 ^ 31
  · obtain ⟨all, e, bound, scaled⟩ := magnitude?_scaled whole wellFormed.digits fits
    rw [scaled]
    by_cases zero : all = 0
    · subst zero
      exact scale?_zero e
    · rw [value] at bound
      refine scale?_of_lt zero (lt_of_le_of_lt ?_ small)
      exact mul_le_mul_of_nonneg_right bound (by positivity)
  · push Not at fits
    obtain ⟨e, exponent, large⟩ := fits
    obtain ⟨size, sign⟩ := written exponent
    have unread : exponentValue? e = none := if_neg (Nat.not_lt.2 large)
    by_cases below : d.point - 1 < 0
    · rw [magnitude?, exponent]
      dsimp only
      rw [unread, if_pos (.inr (sign below))]
      exact ⟨_, rfl, by decide⟩
    · -- So large an exponent would be that of an infinite number.
      exfalso
      obtain ⟨k, point⟩ : ∃ k : Nat, d.point - 1 = k := ⟨_, Int.eq_natAbs_of_nonneg (by omega)⟩
      have least := proper.le_value (by omega)
      rw [point, zpow_natCast] at least
      have total : overflow ≤ d.value * slack ^ 7 :=
        calc overflow ≤ 10 ^ k := Decimal.overflow_le (by omega)
          _ ≤ d.value := least
          _ ≤ d.value * slack ^ 7 := le_mul_of_one_le_right (le_trans (by positivity) least) factor
      exact absurd total (not_le.2 small)

/-! ## Finite numbers -/

/-- The greatest finite numbers, whose digits stand for numbers too close to the end of the range
for the bounds of rounding. -/
theorem magnitude?_greatest : ∀ i < 16, ∀ negative : Bool,
    (magnitude? (numberLayout.numeral negative
      ((⟨2 ^ 53 - 1 - i, 971, false⟩ : Magnitude).shortest .toEven))).any (!·.isNaN) := by
  decide +kernel

theorem magnitude?_finite {x : Float} (finite : x.isFinite) :
    ∃ y, magnitude? (numberLayout.finite x) = some y ∧ y.isNaN = false := by
  obtain ⟨significand, exponent, narrow⟩ := Decimal.Magnitude.ofFloat_bounds finite
  rw [Decimal.Layout.finite]
  generalize Magnitude.ofFloat x = m at significand exponent narrow ⊢
  by_cases greatest : m.exponent = 971 ∧ 2 ^ 53 - 16 ≤ m.significand
  · obtain ⟨i, few, shape⟩ : ∃ i < 16, m = ⟨2 ^ 53 - 1 - i, 971, false⟩ := by
      obtain ⟨top, high⟩ := greatest
      refine ⟨2 ^ 53 - 1 - m.significand, by omega, ?_⟩
      have wide : m.narrowBelow = false := by
        by_contra narrowBelow
        have := narrow (Bool.eq_true_of_not_eq_false narrowBelow)
        omega
      have same : 2 ^ 53 - 1 - (2 ^ 53 - 1 - m.significand) = m.significand := by omega
      rw [same, ← top, ← wide]
    have found := magnitude?_greatest i few (Decimal.signBit x)
    rw [← shape, Option.any_eq_true] at found
    obtain ⟨y, magnitude, number⟩ := found
    exact ⟨y, magnitude, by simpa using number⟩
  · have value := m.shortest_value_le .toEven
    refine magnitude?_numeral (Decimal.Magnitude.shortest_proper .toEven m) ?_ _
    have factor : (0 : ℚ) < slack ^ 7 := by norm_num [slack]
    have scaled : (4 * m.significand + 2 : ℚ) * slack ^ 7 * 2 ^ (m.exponent - 2) < overflow := by
      rcases Int.lt_or_eq_of_le exponent with lower | top
      · have few : (m.significand : ℚ) + 1 ≤ 2 ^ 53 := by exact_mod_cast significand
        have lead : (4 * m.significand + 2 : ℚ) * slack ^ 7 < 2 ^ (56 : Int) :=
          calc (4 * m.significand + 2 : ℚ) * slack ^ 7 ≤ 2 ^ 55 * slack ^ 7 := by
                gcongr
                linarith
            _ < 2 ^ (56 : Int) := by norm_num [slack]
        exact Decimal.mul_lt_overflow lead (by omega)
      · have few : (m.significand : ℚ) + 17 ≤ 2 ^ 53 := by
          have below : m.significand + 17 ≤ 2 ^ 53 := by omega
          exact_mod_cast below
        have lead : (4 * m.significand + 2 : ℚ) * slack ^ 7 < 2 ^ (55 : Int) :=
          calc (4 * m.significand + 2 : ℚ) * slack ^ 7 ≤ (2 ^ 55 - 66) * slack ^ 7 := by
                gcongr
                linarith
            _ < 2 ^ (55 : Int) := by norm_num [slack]
        exact Decimal.mul_lt_overflow lead (by omega)
    refine lt_of_le_of_lt ?_ scaled
    rw [mul_right_comm]
    exact mul_le_mul_of_nonneg_right value factor.le

theorem number?_finite {x : Float} (finite : x.isFinite) :
    ∃ y, number? (numberLayout.finite x) = some (.float y) ∧ y.isNaN = false := by
  obtain ⟨y, magnitude, number⟩ := magnitude?_finite finite
  have layout := numberLayout_notInteger (Decimal.signBit x)
    (Decimal.Magnitude.shortest_proper .toEven (Magnitude.ofFloat x)).nonempty
  rw [number?]
  rw [if_neg (fun integer => layout ⟨integer.1, integer.2.1⟩), magnitude]
  refine ⟨_, rfl, ?_⟩
  split
  · exact Decimal.neg_isNaN number
  · exact number

end SqlStore.Json
