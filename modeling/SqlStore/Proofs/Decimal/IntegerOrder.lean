import SqlStore.Proofs.Decimal.Binary64
import SqlStore.Proofs.Value.Order

namespace SqlStore.Decimal

open Float.Model
open Float.Model.UnpackedFloat hiding Sign
open Value (floatPlace unpackedPlace)

/-! ## Rounding -/

/-- A mantissa and the bits that are shifted out of it, as one number in their order. -/
def ladder (em : ExtendedMantissa) : Nat :=
  4 * em.mantissa + 2 * em.roundBit.toNat + em.stickyBit.toNat

theorem ladder_shiftRightOne_mono {a b : ExtendedMantissa} (le : ladder a ≤ ladder b) :
    ladder a.shiftRightOne ≤ ladder b.shiftRightOne := by
  have halved (em : ExtendedMantissa) : ladder em.shiftRightOne =
      2 * em.mantissa + (em.roundBit || em.stickyBit).toNat := by
    rcases Nat.mod_two_eq_zero_or_one em.mantissa with even | odd <;>
      simp [ladder, ExtendedMantissa.shiftRightOne, *] <;> omega
  rw [halved, halved]
  rcases a with ⟨m, roundBit, stickyBit⟩
  rcases b with ⟨n, roundBit', stickyBit'⟩
  cases roundBit <;> cases stickyBit <;> cases roundBit' <;> cases stickyBit' <;>
    simp [ladder] at le ⊢ <;> omega

theorem ladder_shift_mono {a b : ExtendedMantissa} (le : ladder a ≤ ladder b) (k : Nat) :
    ladder (a >>> k) ≤ ladder (b >>> k) := by
  induction k with
  | zero => exact le
  | succ k ih => exact ladder_shiftRightOne_mono ih

theorem roundedMantissa_mono {a b : ExtendedMantissa} (le : ladder a ≤ ladder b) :
    a.roundedMantissa ≤ b.roundedMantissa := by
  rcases a with ⟨m, roundBit, stickyBit⟩
  rcases b with ⟨n, roundBit', stickyBit'⟩
  cases roundBit <;> cases stickyBit <;> cases roundBit' <;> cases stickyBit' <;>
    simp only [ladder, Bool.toNat_true, Bool.toNat_false] at le <;>
    simp only [ExtendedMantissa.roundedMantissa, ExtendedMantissa.accuracy,
      Accuracy.roundToNearestEven] <;> omega

theorem roundedAt_mono {m n : Nat} (le : m ≤ n) (k : Nat) : roundedAt m k ≤ roundedAt n k := by
  have whole : ladder ⟨m, false, false⟩ ≤ ladder ⟨n, false, false⟩ := Nat.mul_le_mul_left 4 le
  exact roundedMantissa_mono (ladder_shift_mono whole k)

/-! ## Natural numbers -/

/-- The exponent and the 53 bits of the binary64 number nearest to a natural number. -/
def nearest (n : Nat) : Int × Nat :=
  let bits := roundedAt (n * 2 ^ (52 - n.log2)) (n.log2 - 52)
  let exponent : Int := n.log2 - 52
  if bits < 2 ^ 53 then (exponent, bits) else (exponent + 1, 2 ^ 52)

theorem log2_filled {n : Nat} (nonzero : n ≠ 0) :
    (n * 2 ^ (52 - n.log2)).log2 = n.log2 - 52 + 52 := by
  rw [log2_mul_two_pow nonzero]
  omega

theorem roundedAt_wide {n : Nat} (nonzero : n ≠ 0) :
    2 ^ 52 ≤ roundedAt (n * 2 ^ (52 - n.log2)) (n.log2 - 52) ∧
      roundedAt (n * 2 ^ (52 - n.log2)) (n.log2 - 52) ≤ 2 ^ 53 := by
  have wide := wide_mantissa (log2_filled nonzero)
  have bounds := roundedAt_bounds (n * 2 ^ (52 - n.log2)) (n.log2 - 52)
  omega

theorem nearest_bounds {n : Nat} (nonzero : n ≠ 0) :
    2 ^ 52 ≤ (nearest n).2 ∧ (nearest n).2 < 2 ^ 53 ∧
      n.log2 ≤ (nearest n).1 + 52 ∧ (nearest n).1 + 52 ≤ n.log2 + 1 := by
  have wide := roundedAt_wide nonzero
  unfold nearest
  dsimp only
  split <;> dsimp only <;> omega

theorem round_nat (s : UnpackedFloat.Sign) {n : Nat} (nonzero : n ≠ 0) : ∃ pos,
    UnpackedFloat.round .binary64 s n 0 = .finite s (nearest n).2 (nearest n).1 pos := by
  have target := targetExponent_eq n 0
  have filled := log2_filled nonzero
  have amount : (0 - max ((n.log2 : Int) - 52 + 0) (-1074)).toNat = 52 - n.log2 := by omega
  obtain ⟨short, carried⟩ := roundWithAccuracy_eq s (e := 0 - ((52 - n.log2 : Nat) : Int)) filled
    (by omega)
  have exponent : 0 - ((52 - n.log2 : Nat) : Int) + ((n.log2 - 52 : Nat) : Int) = n.log2 - 52 := by
    omega
  have wide := roundedAt_wide nonzero
  unfold UnpackedFloat.round decreaseExponent nearest
  rw [target]
  dsimp only
  rw [amount, Nat.shiftLeft_eq]
  rw [exponent] at short carried
  split
  · exact short ‹_›
  · exact carried (by omega)

theorem nearest_mono {m n : Nat} (nonzero : m ≠ 0) (le : m ≤ n) :
    (nearest m).1 < (nearest n).1 ∨
      (nearest m).1 = (nearest n).1 ∧ (nearest m).2 ≤ (nearest n).2 := by
  have logs := log2_le_log2 nonzero le
  rcases Nat.lt_or_eq_of_le logs with shorter | same
  · -- The shorter number carries at most to the least mantissa of the longer one.
    have wide := roundedAt_wide nonzero
    have wide' := roundedAt_wide (n := n) (by omega)
    unfold nearest
    dsimp only
    split <;> split <;> dsimp only <;> omega
  · have rounded := roundedAt_mono (Nat.mul_le_mul_right (2 ^ (52 - n.log2)) le) (n.log2 - 52)
    unfold nearest
    rw [same]
    dsimp only
    split <;> split <;> dsimp only <;> omega

theorem nearest_short {n : Nat} (nonzero : n ≠ 0) (short : n < 2 ^ 53) :
    nearest n = ((n.log2 : Int) - 52, n * 2 ^ (52 - n.log2)) := by
  have whole : n.log2 - 52 = 0 := by
    have := (Nat.log2_lt nonzero).2 short
    omega
  have high := (wide_mantissa (log2_filled nonzero)).2
  have kept : roundedAt (n * 2 ^ (52 - n.log2)) 0 = n * 2 ^ (52 - n.log2) := rfl
  rw [whole, pow_zero, Nat.div_one] at high
  unfold nearest
  rw [whole, kept]
  exact if_pos high

theorem nearest_inj {m n : Nat} (nonzero : m ≠ 0) (less : m < n) (short : n ≤ 2 ^ 53) :
    nearest m ≠ nearest n := by
  intro equal
  have logs := log2_le_log2 nonzero less.le
  rw [nearest_short nonzero (by omega)] at equal
  rcases Nat.lt_or_eq_of_le short with short | rfl
  · rw [nearest_short (by omega) short, Prod.mk.injEq] at equal
    have same : m.log2 = n.log2 := by omega
    rw [same] at equal
    exact less.ne (Nat.eq_of_mul_eq_mul_right (Nat.two_pow_pos _) equal.2)
  · have most : nearest (2 ^ 53) = (1, 2 ^ 52) := by decide
    rw [most, Prod.mk.injEq] at equal
    have := (Nat.log2_lt nonzero).2 less
    omega

def compareNearest (m n : Nat) : Ordering :=
  (compare (nearest m).1 (nearest n).1).then (compare (nearest m).2 (nearest n).2)

theorem compareNearest_of_lt {m n : Nat} (nonzero : m ≠ 0) (less : m < n) :
    compareNearest m n ≠ .gt ∧ (n ≤ 2 ^ 53 → compareNearest m n = .lt) := by
  unfold compareNearest
  rcases nearest_mono nonzero less.le with exponent | ⟨exponent, bits⟩
  · rw [compare_lt_iff_lt.2 exponent]
    exact ⟨nofun, fun _ => rfl⟩
  rw [compare_eq_iff_eq.2 exponent, Ordering.eq_then]
  rcases Nat.lt_or_eq_of_le bits with bits | bits
  · rw [compare_lt_iff_lt.2 bits]
    exact ⟨nofun, fun _ => rfl⟩
  · rw [compare_eq_iff_eq.2 bits]
    exact ⟨nofun, fun short => absurd (Prod.ext exponent bits) (nearest_inj nonzero less short)⟩

/-! ## Integers -/

def integerPlace (i : Int) : List Int :=
  match compare i 0 with
  | .lt => [-1, -(nearest i.natAbs).1, -((nearest i.natAbs).2 : Int)]
  | .eq => [0]
  | .gt => [1, (nearest i.natAbs).1, (nearest i.natAbs).2]

theorem floatPlace_ofInt64 (i : Int64) : floatPlace (ofInt64 i) = integerPlace i.toInt := by
  have packed (s : UnpackedFloat.Sign) {n : Nat} (nonzero : n ≠ 0) (small : n ≤ 2 ^ 63) : ∃ pos,
      (Float.Model.pack (UnpackedFloat.round .binary64 s n 0)).unpack =
        .finite s (nearest n).2 (nearest n).1 pos := by
    obtain ⟨pos, rounded⟩ := round_nat s nonzero
    obtain ⟨low, high, least, most⟩ := nearest_bounds nonzero
    have bits : n.log2 ≤ 63 := by
      have := log2_le_log2 nonzero small
      rwa [Nat.log2_two_pow] at this
    rw [rounded, unpack_pack_finite low high (by omega), if_pos (by omega)]
    exact ⟨pos, rfl⟩
  have bounds : -2 ^ 63 ≤ i.toInt ∧ i.toInt < 2 ^ 63 := ⟨Int64.le_toInt i, Int64.toInt_lt i⟩
  change unpackedPlace (Float.Model.pack
    (UnpackedFloat.normalize .binary64 i.toInt 0 .positive)).unpack = _
  unfold UnpackedFloat.normalize integerPlace
  rcases lt_trichotomy i.toInt 0 with below | zero | above
  · have size : (-i.toInt).toNat = i.toInt.natAbs := by omega
    rw [Int.compare_eq_lt.2 below]
    dsimp only
    rw [size]
    obtain ⟨pos, unpacked⟩ := packed .negative (n := i.toInt.natAbs) (by omega) (by omega)
    rw [unpacked]
    rfl
  · rw [zero]
    rfl
  · have size : i.toInt.toNat = i.toInt.natAbs := by omega
    rw [Int.compare_eq_gt.2 above]
    dsimp only
    rw [size]
    obtain ⟨pos, unpacked⟩ := packed .positive (n := i.toInt.natAbs) (by omega) (by omega)
    rw [unpacked]
    rfl

theorem integerPlace_neg {i : Int} (below : i < 0) : integerPlace i =
    [-1, -(nearest i.natAbs).1, -((nearest i.natAbs).2 : Int)] := by
  rw [integerPlace, Int.compare_eq_lt.2 below]

theorem integerPlace_pos {i : Int} (above : 0 < i) : integerPlace i =
    [1, (nearest i.natAbs).1, ((nearest i.natAbs).2 : Int)] := by
  rw [integerPlace, Int.compare_eq_gt.2 above]

theorem compare_integerPlace {i j : Int} (less : i < j) :
    compare (integerPlace i) (integerPlace j) ≠ .gt ∧
      (i.natAbs ≤ 2 ^ 53 → j.natAbs ≤ 2 ^ 53 →
        compare (integerPlace i) (integerPlace j) = .lt) := by
  have same (k : Int) : compare k k = .eq := Std.ReflCmp.compare_self
  rcases lt_trichotomy i 0 with below | zero | above
  · rcases lt_trichotomy j 0 with below' | zero' | above'
    · obtain ⟨order, short⟩ := compareNearest_of_lt (m := j.natAbs) (n := i.natAbs) (by omega)
        (by omega)
      have flipped : compare (integerPlace i) (integerPlace j)
          = compareNearest j.natAbs i.natAbs := by
        rw [integerPlace_neg below, integerPlace_neg below', compareNearest]
        simp only [List.compare_cons_cons, List.compare_nil_nil, Value.compare_neg,
          Value.compare_natCast, same, Ordering.eq_then, Ordering.then_eq,
          ← @Std.OrientedCmp.eq_swap _ compare]
      rw [flipped]
      exact ⟨order, fun shortI _ => short shortI⟩
    · rw [integerPlace_neg below, zero']
      exact ⟨nofun, fun _ _ => rfl⟩
    · rw [integerPlace_neg below, integerPlace_pos above']
      exact ⟨nofun, fun _ _ => rfl⟩
  · have above : 0 < j := by omega
    rw [zero, integerPlace_pos above]
    exact ⟨nofun, fun _ _ => rfl⟩
  · obtain ⟨order, short⟩ := compareNearest_of_lt (m := i.natAbs) (n := j.natAbs) (by omega)
      (by omega)
    have kept : compare (integerPlace i) (integerPlace j)
        = compareNearest i.natAbs j.natAbs := by
      rw [integerPlace_pos above, integerPlace_pos (by omega), compareNearest]
      simp only [List.compare_cons_cons, List.compare_nil_nil, Value.compare_natCast, same,
        Ordering.eq_then, Ordering.then_eq]
    rw [kept]
    exact ⟨order, fun _ shortJ => short shortJ⟩

end SqlStore.Decimal
