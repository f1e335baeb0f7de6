import Mathlib.Algebra.Group.Nat.Defs
import SqlStore.Decimal.Basic

namespace SqlStore

theorem takeWhile_append_of_stop {p : Char → Bool} {ds rest : List Char} (all : ∀ c ∈ ds, p c)
    (stop : ∀ c ∈ rest.head?, ¬ p c) :
    (ds ++ rest).takeWhile p = ds ∧ (ds ++ rest).dropWhile p = rest := by
  rw [List.takeWhile_append_of_pos all, List.dropWhile_append_of_pos all]
  cases rest with
  | nil => simp
  | cons c rest => simp [stop c rfl]

namespace Decimal

theorem digitsValue_toDigits (n : Nat) : digitsValue (Nat.toDigits 10 n) = n :=
  Nat.ofDigitChars_ten_toDigits

theorem isDigit_toDigits {n : Nat} {c : Char} (mem : c ∈ Nat.toDigits 10 n) : c.isDigit :=
  Nat.isDigit_of_mem_toDigits (by decide) (by decide) mem

theorem head?_toDigits {n : Nat} (positive : 0 < n) : (Nat.toDigits 10 n).head? ≠ some '0' := by
  induction n using Nat.strongRecOn with
  | ind n ih =>
      by_cases small : n < 10
      · rw [Nat.toDigits_of_lt_base small]
        have digit : ∀ d < 10, 0 < d → [d.digitChar].head? ≠ some '0' := by decide
        exact digit n small positive
      · have rest := ih (n / 10) (by omega) (by omega)
        rw [Nat.toDigits_of_base_le (by decide) (by omega)]
        cases digits : Nat.toDigits 10 (n / 10) with
        | nil => exact absurd digits Nat.toDigits_ne_nil
        | cons d ds => simpa [digits] using rest

theorem toDigits_cons (n : Nat) : ∃ d ds, Nat.toDigits 10 n = d :: ds ∧ d.isDigit := by
  cases digits : Nat.toDigits 10 n with
  | nil => exact absurd digits Nat.toDigits_ne_nil
  | cons d ds =>
      refine ⟨d, ds, rfl, isDigit_toDigits (n := n) ?_⟩
      rw [digits]
      exact List.mem_cons_self

/-! ## Integers of 64 bits -/

theorem le_ofDigitChars (ds : List Char) (n : Nat) : n ≤ Nat.ofDigitChars 10 ds n := by
  induction ds generalizing n with
  | nil => exact Nat.le_refl n
  | cons d ds ih =>
      rw [Nat.ofDigitChars_cons]
      exact Nat.le_trans (by omega) (ih _)

theorem readDigits_of_le {limit : Nat} {overflow : IntegerFault} {n : Nat} {ds : List Char}
    (all : ∀ c ∈ ds, c.isDigit) (small : Nat.ofDigitChars 10 ds n ≤ limit) :
    readDigits limit overflow n ds = .ok (Nat.ofDigitChars 10 ds n) := by
  induction ds generalizing n with
  | nil => rfl
  | cons d ds ih =>
      rw [Nat.ofDigitChars_cons] at small ⊢
      rw [readDigits, if_pos (all d List.mem_cons_self)]
      dsimp only
      rw [if_pos (Nat.le_trans (le_ofDigitChars ds _) small)]
      exact ih (fun c mem => all c (List.mem_cons_of_mem d mem)) small

theorem readMagnitude_toDigits {limit : Nat} {overflow : IntegerFault} {n : Nat}
    (small : n ≤ limit) : readMagnitude limit overflow (Nat.toDigits 10 n) = .ok n := by
  have value : Nat.ofDigitChars 10 (Nat.toDigits 10 n) 0 = n := Nat.ofDigitChars_ten_toDigits
  have nonempty : (Nat.toDigits 10 n).isEmpty = false := by simp [Nat.toDigits_ne_nil]
  rw [readMagnitude, nonempty]
  refine (readDigits_of_le (fun c => isDigit_toDigits) ?_).trans ?_
  · rw [value]
    exact small
  · rw [value]

theorem readInt64_minus {n : Nat} (small : n ≤ 2 ^ 63) :
    readInt64 ('-' :: Nat.toDigits 10 n) = .ok (Int64.ofInt (-n)) := by
  rw [readInt64, Nat.pow_eq, readMagnitude_toDigits small]
  rfl

theorem readInt64_toDigits {n : Nat} (small : n < 2 ^ 63) :
    readInt64 (Nat.toDigits 10 n) = .ok (Int64.ofInt n) := by
  have read : readMagnitude (2 ^ 63 - 1) .tooLarge (Nat.toDigits 10 n) = .ok n :=
    readMagnitude_toDigits (by omega)
  obtain ⟨d, ds, digits, digit⟩ := toDigits_cons n
  rw [digits] at read ⊢
  rw [readInt64, Nat.pow_eq, read]
  · rfl
  all_goals
    rintro rfl
    exact absurd digit (by decide)

theorem readUInt64_toDigits (n : UInt64) : readUInt64 (Nat.toDigits 10 n.toNat) = .ok n := by
  have high := n.toNat_lt
  have read : readMagnitude (2 ^ 64 - 1) .tooLarge (Nat.toDigits 10 n.toNat) = .ok n.toNat :=
    readMagnitude_toDigits (by omega)
  obtain ⟨d, ds, digits, digit⟩ := toDigits_cons n.toNat
  rw [digits] at read ⊢
  rw [readUInt64, Nat.pow_eq, read]
  · change Except.ok (UInt64.ofNat n.toNat) = _
    rw [UInt64.ofNat_toNat]
  · rintro rfl
    exact absurd digit (by decide)

end Decimal

end SqlStore
