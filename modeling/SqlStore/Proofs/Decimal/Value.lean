import Mathlib
import SqlStore.Proofs.Decimal.Layout
import SqlStore.Proofs.Decimal.Reading

namespace SqlStore.Decimal

def Digits.value (d : Digits) : ℚ :=
  digitsValue d.digits * 10 ^ (d.point - d.digits.length)

def Numeral.power (n : Numeral) : Int :=
  (match n.exponent with
    | none => 0
    | some e => signedValue e.sign e.digits) - n.fraction.length

def Numeral.value (n : Numeral) : ℚ :=
  digitsValue (n.whole ++ n.fraction) * 10 ^ n.power

theorem digitsValue_append_zeros (ds : List Char) (n : Nat) :
    digitsValue (ds ++ List.replicate n '0') = digitsValue ds * 10 ^ n := by
  rw [digitsValue, Nat.ofDigitChars_append, Nat.ofDigitChars_replicate_zero, Nat.mul_comm]
  rfl

theorem digitsValue_zeros_append (n : Nat) (ds : List Char) :
    digitsValue (List.replicate n '0' ++ ds) = digitsValue ds := by
  rw [digitsValue, Nat.ofDigitChars_append, Nat.ofDigitChars_replicate_zero, Nat.mul_zero]
  rfl

theorem digitsValue_lt {ds : List Char} (digits : ∀ c ∈ ds, c.isDigit) :
    digitsValue ds < 10 ^ ds.length := by
  have bound (ds : List Char) (digits : ∀ c ∈ ds, c.isDigit) (n : Nat) :
      Nat.ofDigitChars 10 ds n < 10 ^ ds.length * (n + 1) := by
    induction ds generalizing n with
    | nil => rw [Nat.ofDigitChars_nil, List.length_nil, Nat.pow_zero, Nat.one_mul]; omega
    | cons d ds ih =>
        have digit : d.toNat - '0'.toNat ≤ 9 := by
          have digit := Char.isDigit_iff_toNat.1 (digits d List.mem_cons_self)
          exact Nat.sub_le_sub_right digit.2 _
        rw [Nat.ofDigitChars_cons, List.length_cons, Nat.pow_succ, Nat.mul_assoc]
        refine (ih (fun c mem => digits c (List.mem_cons_of_mem d mem)) _).trans_le ?_
        exact Nat.mul_le_mul_left _ (by omega)
  have total := bound ds digits 0
  rwa [Nat.zero_add, Nat.mul_one] at total

theorem scaled_zeros (c n : Nat) {e f : Int} (shift : e = f + n) :
    ((c * 10 ^ n : Nat) : ℚ) * 10 ^ f = c * 10 ^ e := by
  push_cast
  rw [shift, add_comm, zpow_add₀ (by norm_num), zpow_natCast, mul_assoc]

theorem Layout.numeral_value (l : Layout) (negative : Bool) {d : Digits} (nonempty : d.digits ≠ []) :
    (l.numeral negative d).value = d.value := by
  have positive := List.length_pos_of_ne_nil nonempty
  rw [numeral]
  dsimp only
  split
  · split
    · rename_i behind
      have zeros : '0' :: (List.replicate (-d.point).toNat '0' ++ d.digits)
          = List.replicate ((-d.point).toNat + 1) '0' ++ d.digits := rfl
      rw [Numeral.value, Numeral.power, Digits.value]
      dsimp only [List.singleton_append]
      rw [zeros, digitsValue_zeros_append, List.length_append, List.length_replicate]
      congr 2
      omega
    · split
      · rename_i before short
        obtain ⟨j, point⟩ : ∃ j, (if l.pointZero then ['0'] else []) = List.replicate j '0' := by
          cases l.pointZero
          · exact ⟨0, rfl⟩
          · exact ⟨1, rfl⟩
        rw [Numeral.value, Numeral.power, Digits.value]
        dsimp only
        rw [point, List.append_assoc, List.replicate_append_replicate, digitsValue_append_zeros,
          List.length_replicate]
        exact scaled_zeros _ _ (by omega)
      · rename_i before long
        rw [Numeral.value, Numeral.power, Digits.value]
        dsimp only
        rw [List.take_append_drop, List.length_drop]
        congr 2
        omega
  · have exponent : signedValue (if d.point - 1 < 0 then some .minus
        else if l.plusSign then some .plus else none) (Nat.toDigits 10 (d.point - 1).natAbs)
          = d.point - 1 := by
      rw [signedValue, digitsValue_toDigits]
      by_cases below : d.point - 1 < 0
      · rw [if_pos below, if_pos rfl]
        omega
      · rw [if_neg below, if_neg (by split <;> simp)]
        omega
    rw [Numeral.value, Numeral.power, Digits.value]
    dsimp only
    rw [List.take_append_drop, List.length_drop, exponent]
    congr 2
    omega

theorem Layout.numeral_exponent (l : Layout) (negative : Bool) (d : Digits) {e : Exponent}
    (written : (l.numeral negative d).exponent = some e) :
    digitsValue e.digits = (d.point - 1).natAbs ∧ (d.point - 1 < 0 → e.sign = some .minus) := by
  rw [numeral] at written
  dsimp only at written
  split at written
  · split at written
    · cases written
    · split at written <;> cases written
  · cases written
    exact ⟨digitsValue_toDigits _, fun below => if_pos below⟩

theorem mul_pow_le_ofDigitChars (n : Nat) (ds : List Char) :
    n * 10 ^ ds.length ≤ Nat.ofDigitChars 10 ds n := by
  rw [Nat.ofDigitChars_eq_ofDigitChars_zero, Nat.mul_comm]
  exact Nat.le_add_right _ _

theorem Digits.Proper.le_value {d : Digits} (proper : d.Proper) (large : 1 < d.point) :
    (10 : ℚ) ^ (d.point - 1) ≤ d.value := by
  obtain ⟨nonempty, digits, noLeadingZero⟩ := proper
  rw [Digits.value]
  cases written : d.digits with
  | nil => exact absurd written nonempty
  | cons c cs =>
      rw [written] at digits noLeadingZero
      have first : c ≠ '0' := by
        rintro rfl
        have := (noLeadingZero rfl).2
        omega
      have leading : 1 ≤ c.toNat - '0'.toNat := by
        have digit := Char.isDigit_iff_toNat.1 (digits c List.mem_cons_self)
        have other : c.toNat ≠ '0'.toNat := fun same => first (Char.toNat_inj.1 same)
        omega
      have whole : 10 ^ cs.length ≤ digitsValue (c :: cs) := by
        rw [digitsValue, Nat.ofDigitChars_cons]
        refine le_trans ?_ (mul_pow_le_ofDigitChars _ _)
        exact Nat.le_mul_of_pos_left _ (by omega)
      have power := Decimal.scaled_zeros 1 cs.length (e := d.point - 1)
        (f := d.point - (c :: cs).length) (by rw [List.length_cons]; omega)
      rw [Nat.one_mul, Nat.cast_one, one_mul] at power
      rw [← power]
      exact mul_le_mul_of_nonneg_right (Nat.cast_le.2 whole) (by positivity)

/-! ## Chosen digits -/

theorem trailing_zeros (ds : List Char) :
    ∃ k, ds = (ds.reverse.dropWhile (· == '0')).reverse ++ List.replicate k '0' := by
  have zeros : ds.reverse.takeWhile (· == '0')
      = List.replicate (ds.reverse.takeWhile (· == '0')).length '0' :=
    List.eq_replicate_length.2 fun c mem =>
      eq_of_beq (List.mem_takeWhile_imp (p := (· == '0')) mem)
  refine ⟨(ds.reverse.takeWhile (· == '0')).length, ?_⟩
  rw [← List.reverse_replicate, ← zeros, ← List.reverse_append, List.takeWhile_append_dropWhile,
    List.reverse_reverse]

theorem Digits.ofScaled_value (c : Nat) (e : Int) : (ofScaled c e).value = c * 10 ^ e := by
  obtain ⟨k, split⟩ := trailing_zeros (Nat.toDigits 10 c)
  have value := digitsValue_toDigits c
  have length := congrArg List.length split
  rw [List.length_append, List.length_replicate] at length
  rw [split, digitsValue_append_zeros] at value
  rw [Digits.value, ofScaled]
  dsimp only
  rw [← scaled_zeros _ k (e := _) (f := e) (by omega), value]

theorem pow_toNat {b : ℚ} (nonzero : b ≠ 0) (e : Int) :
    b ^ e.toNat = b ^ (-e).toNat * b ^ e := by
  rw [← zpow_natCast, ← zpow_natCast, ← zpow_add₀ nonzero]
  congr 1
  omega

namespace Interval

variable {i : Interval} {c : Nat}

theorem le_high (holds : i.holds c) : c * i.denominator ≤ i.high := by
  rw [Interval.holds] at holds
  split at holds
  all_goals
    simp only [Bool.and_eq_true, decide_eq_true_eq] at holds
    omega

theorem scale_le_high {e : Int} (holds : (i.scale e).holds c) :
    (c : ℚ) * 10 ^ e * i.denominator ≤ i.high := by
  have bound : (c : ℚ) * (i.denominator * 10 ^ e.toNat) ≤ i.high * 10 ^ (-e).toNat := by
    exact_mod_cast le_high holds
  rw [pow_toNat (by norm_num) e] at bound
  refine le_of_mul_le_mul_right (le_trans (le_of_eq ?_) bound)
    (by positivity : (0 : ℚ) < 10 ^ (-e).toNat)
  ring

theorem search_value {tie : Tie} {steps : Nat} {e : Int} {d : Digits}
    (found : i.search tie steps e = some d) : d.value * i.denominator ≤ i.high := by
  induction steps generalizing e with
  | zero => cases found
  | succ steps ih =>
      rw [search] at found
      split at found
      · rename_i c nearest
        cases found
        rw [Digits.ofScaled_value]
        exact scale_le_high (holds_of_nearest? nearest)
      · exact ih found

end Interval

namespace Magnitude

variable {x : Magnitude}

theorem exact_value (x : Magnitude) : x.exact.value = x.significand * 2 ^ x.exponent := by
  rw [exact]
  split
  · rename_i whole
    rw [Digits.ofScaled_value]
    push_cast [Nat.pow_eq]
    rw [mul_one, ← zpow_natCast, Int.toNat_of_nonneg whole]
  · rename_i fraction
    rw [Digits.ofScaled_value]
    push_cast [Nat.pow_eq]
    have five : (5 : ℚ) ^ (-x.exponent).toNat = 5 ^ (-x.exponent) := by
      rw [← zpow_natCast, Int.toNat_of_nonneg (by omega)]
    have ten : (10 : ℚ) ^ x.exponent = 5 ^ x.exponent * 2 ^ x.exponent := by
      rw [← mul_zpow]
      norm_num
    rw [five, ten, mul_assoc, ← mul_assoc (5 ^ _), ← zpow_add₀ (by norm_num)]
    norm_num

theorem exponentField_lt {x : Float} (finite : x.isFinite) :
    x.toBits.toNat / Nat.pow 2 52 % Nat.pow 2 11 < 2047 := by
  have exponent : (@Float.Model.UnpackedFloat.unpackExponent .binary64
      x.toModel.toBits.toBitVec).toNat = x.toBits.toNat / Nat.pow 2 52 % Nat.pow 2 11 := by
    simp [Float.Model.UnpackedFloat.unpackExponent, Nat.shiftRight_eq_div_pow]
    rfl
  by_contra large
  have most : x.toBits.toNat / Nat.pow 2 52 % Nat.pow 2 11 < 2048 :=
    Nat.mod_lt _ (Nat.two_pow_pos 11)
  have full : @Float.Model.UnpackedFloat.unpackExponent .binary64
      x.toModel.toBits.toBitVec = -1#11 := by
    apply BitVec.eq_of_toNat_eq
    refine exponent.trans ?_
    have top : (-1#11).toNat = 2047 := rfl
    omega
  change (Float.Model.UnpackedFloat.unpack .binary64 x.toModel.toBits.toBitVec).isFinite = true
    at finite
  rw [Float.Model.UnpackedFloat.unpack] at finite
  dsimp only at finite
  rw [if_pos full] at finite
  split at finite <;> cases finite

theorem ofFloat_bounds {x : Float} (finite : x.isFinite) :
    (ofFloat x).significand < 2 ^ 53 ∧ (ofFloat x).exponent ≤ 971 ∧
      ((ofFloat x).narrowBelow → (ofFloat x).significand = 2 ^ 52) := by
  have field := exponentField_lt finite
  have low : x.toBits.toNat % Nat.pow 2 52 < 2 ^ 52 := Nat.mod_lt _ (Nat.two_pow_pos 52)
  rw [ofFloat]
  split
  · exact ⟨by dsimp only; omega, (by decide : (-1074 : Int) ≤ 971), nofun⟩
  · refine ⟨?_, by dsimp only; omega, ?_⟩
    · have hidden : Nat.pow 2 52 = 2 ^ 52 := rfl
      dsimp only
      omega
    · intro narrow
      simp only [Bool.and_eq_true, decide_eq_true_eq] at narrow
      dsimp only
      rw [narrow.1]
      rfl

theorem shortest_value_le (tie : Tie) (x : Magnitude) :
    (x.shortest tie).value ≤ (4 * x.significand + 2) * 2 ^ (x.exponent - 2) := by
  have exact_le : (x.significand : ℚ) * 2 ^ x.exponent
      ≤ (4 * x.significand + 2) * 2 ^ (x.exponent - 2) := by
    rw [zpow_sub₀ two_ne_zero]
    have unit : (0 : ℚ) < 2 ^ x.exponent := by positivity
    norm_num
    linarith
  rw [shortest]
  split
  · rename_i zero
    refine le_trans (le_of_eq ?_) exact_le
    rw [zero, Digits.value]
    norm_num [digitsValue, Nat.ofDigitChars]
  · cases found : x.interval.search tie 17 (x.interval.scaleOf - 1) with
    | none => exact (exact_value x).le.trans exact_le
    | some d =>
        have bound := Interval.search_value found
        rw [interval] at bound
        push_cast [Nat.pow_eq] at bound
        have unit := pow_toNat (b := (2 : ℚ)) two_ne_zero (x.exponent - 2)
        rw [neg_sub] at unit
        rw [unit] at bound
        refine le_of_mul_le_mul_right (bound.trans (le_of_eq ?_))
          (by positivity : (0 : ℚ) < 2 ^ (2 - x.exponent).toNat)
        ring

end Magnitude

end SqlStore.Decimal
