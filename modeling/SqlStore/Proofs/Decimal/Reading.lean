import Mathlib
import SqlStore.Proofs.Decimal

namespace SqlStore.Decimal

def signedText (sign : Option Sign) (ds : List Char) : List Char :=
  (sign.map Sign.toChar).toList ++ ds

def signedValue (sign : Option Sign) (ds : List Char) : Int :=
  if sign = some .minus then -(digitsValue ds : Int) else digitsValue ds

variable {ds : List Char}

theorem readDigits_of_gt {limit : Nat} {overflow : IntegerFault} {n : Nat}
    (all : ∀ c ∈ ds, c.isDigit) (within : n ≤ limit) (large : limit < Nat.ofDigitChars 10 ds n) :
    readDigits limit overflow n ds = .error overflow := by
  induction ds generalizing n with
  | nil => exact absurd within (Nat.not_le.2 large)
  | cons d ds ih =>
      rw [Nat.ofDigitChars_cons] at large
      rw [readDigits, if_pos (all d List.mem_cons_self)]
      dsimp only
      split
      · rename_i next
        exact ih (fun c mem => all c (List.mem_cons_of_mem d mem)) next large
      · rfl

theorem readMagnitude_digits {limit : Nat} {overflow : IntegerFault} (nonempty : ds ≠ [])
    (all : ∀ c ∈ ds, c.isDigit) :
    readMagnitude limit overflow ds
      = if digitsValue ds ≤ limit then .ok (digitsValue ds) else .error overflow := by
  have some : ds.isEmpty = false := by simp [nonempty]
  rw [readMagnitude, some, if_neg Bool.false_ne_true]
  split
  · rename_i small
    exact readDigits_of_le all small
  · rename_i large
    exact readDigits_of_gt all (Nat.zero_le limit) (Nat.not_le.1 large)

theorem readInt64_signedText (sign : Option Sign) (nonempty : ds ≠ [])
    (all : ∀ c ∈ ds, c.isDigit) :
    readInt64 (signedText sign ds)
      = if -2 ^ 63 ≤ signedValue sign ds ∧ signedValue sign ds < 2 ^ 63 then
          .ok (Int64.ofInt (signedValue sign ds))
        else .error (if sign = some .minus then .tooSmall else .tooLarge) := by
  have lower (n : Nat) : n ≤ Nat.pow 2 63 ↔ -2 ^ 63 ≤ -(n : Int) ∧ -(n : Int) < 2 ^ 63 := by
    rw [Nat.pow_eq]
    omega
  have upper (n : Nat) : n ≤ Nat.pow 2 63 - 1 ↔ -2 ^ 63 ≤ (n : Int) ∧ (n : Int) < 2 ^ 63 := by
    rw [Nat.pow_eq]
    omega
  match sign with
  | some .minus =>
      change readInt64 ('-' :: ds) = _
      rw [readInt64, readMagnitude_digits nonempty all]
      simp only [signedValue, lower, if_true]
      split <;> rfl
  | some .plus =>
      change readInt64 ('+' :: ds) = _
      rw [readInt64, readMagnitude_digits nonempty all]
      simp only [signedValue, upper, Option.some.injEq, reduceCtorEq, if_false]
      split <;> rfl
  | none =>
      change readInt64 ds = _
      have read : readMagnitude (Nat.pow 2 63 - 1) .tooLarge ds = _ :=
        readMagnitude_digits nonempty all
      cases ds with
      | nil => exact absurd rfl nonempty
      | cons d ds =>
          have digit := all d List.mem_cons_self
          rw [readInt64, read]
          · simp only [signedValue, upper, reduceCtorEq, if_false]
            split <;> rfl
          all_goals
            rintro rfl
            exact absurd digit (by decide)

theorem toLower_of_isDigit {c : Char} (digit : c.isDigit) : c.toLower = c := by
  rw [Char.toLower, dif_neg]
  simp only [Char.isDigit, Bool.and_eq_true, decide_eq_true_eq] at digit
  intro upper
  exact absurd (UInt32.le_trans upper.1 digit.2) (by decide)

theorem takeSign_signedText (sign : Option Sign) (nonempty : ds ≠ [])
    (all : ∀ c ∈ ds, c.isDigit) :
    takeSign (signedText sign ds) = (decide (sign = some .minus), ds) := by
  match sign with
  | some .minus => rfl
  | some .plus => rfl
  | none =>
      cases ds with
      | nil => exact absurd rfl nonempty
      | cons d ds =>
          have digit := all d List.mem_cons_self
          change takeSign (d :: ds) = _
          rw [takeSign]
          · rfl
          all_goals
            rintro cs ⟨⟩
            exact absurd digit (by decide)

theorem readUnsigned?_digits (nonempty : ds ≠ []) (all : ∀ c ∈ ds, c.isDigit) :
    readUnsigned? ds = some (ofScaled (digitsValue ds) 0) := by
  have taken : ds.takeWhile Char.isDigit = ds ∧ ds.dropWhile Char.isDigit = [] := by
    have stop : ∀ c ∈ ([] : List Char).head?, ¬ c.isDigit := by simp
    have := takeWhile_append_of_stop all stop
    rwa [List.append_nil] at this
  rw [readUnsigned?, taken.1, taken.2]
  simp [nonempty, readExponent?]

theorem readFloat?_signedText (sign : Option Sign) (nonempty : ds ≠ [])
    (all : ∀ c ∈ ds, c.isDigit) :
    readFloat? (signedText sign ds)
      = some (if sign = some .minus then -ofScaled (digitsValue ds) 0
          else ofScaled (digitsValue ds) 0) := by
  have lower : ds.map Char.toLower = ds :=
    (List.map_congr_left fun c mem => toLower_of_isDigit (all c mem)).trans ds.map_id
  have noWord (w : String) (letters : w.toList.all fun c => !c.isDigit) :
      String.ofList ds ≠ w := by
    rintro rfl
    rw [String.toList_ofList, List.all_eq_true] at letters
    obtain ⟨d, mem⟩ := List.exists_mem_of_ne_nil ds nonempty
    have letter := letters d mem
    rw [all d mem] at letter
    cases letter
  rw [readFloat?, takeSign_signedText sign nonempty all]
  dsimp only
  rw [lower, decide_eq_false (noWord "inf" (by decide)),
    decide_eq_false (noWord "infinity" (by decide)), if_neg (by decide),
    if_neg (noWord "nan" (by decide)), readUnsigned?_digits nonempty all]
  simp

end SqlStore.Decimal
