import SqlStore.Proofs.Decimal.Binary64
import SqlStore.Proofs.Decimal.Reading
import SqlStore.Schema.Column

namespace SqlStore.Column

open Decimal (Sign signedText signedValue digitsValue ofScaled)

variable {s : String} {sign : Option Sign} {ds : List Char}

theorem readInteger?_signedText (trimmed : Text.trim s.toList = signedText sign ds)
    (nonempty : ds ≠ []) (digits : ∀ d ∈ ds, d.isDigit) :
    readInteger? s
      = if -2 ^ 63 ≤ signedValue sign ds ∧ signedValue sign ds < 2 ^ 63 then
          some (Int64.ofInt (signedValue sign ds))
        else if (ofScaled (digitsValue ds) 0).isFinite then
          some (if sign = some .minus then Int64.minValue else Int64.maxValue)
        else none := by
  rw [readInteger?, trimmed, Decimal.readInt64_signedText sign nonempty digits,
    Decimal.readFloat?_signedText sign nonempty digits]
  by_cases inside : -2 ^ 63 ≤ signedValue sign ds ∧ signedValue sign ds < 2 ^ 63
  · rw [if_pos inside, if_pos inside]
  · rw [if_neg inside, if_neg inside]
    dsimp only [Option.bind_some]
    have large : 2 ^ 63 ≤ digitsValue ds := by
      rw [signedValue] at inside
      split at inside <;> omega
    have bits : 63 ≤ (digitsValue ds).log2 := Decimal.le_log2_of_le large
    have beyond : Decimal.Rounded .positive 63 _ (ofScaled (digitsValue ds) 0) :=
      (Decimal.ofScaled_rounded (by omega) 0).mono (by omega) le_rfl
    by_cases negative : sign = some .minus
    · rw [if_pos negative, if_pos negative, beyond.isFinite_neg (by decide),
        Decimal.toInt64_saturates (beyond.neg (by decide))]
    · rw [if_neg negative, if_neg negative, Decimal.toInt64_saturates beyond]

/-- A text that is a sign and digits is stored in an integer column exactly, as the integer that it
denotes, where 64 bits hold that. Elsewhere it is stored as the end of the range on its side, or
counts as no number where it is infinite as a binary64 number. -/
theorem encode?_integerText {c : Column} (p : NumericPolicy) (integer : c.kind = .integer)
    (trimmed : Text.trim s.toList = signedText sign ds) (nonempty : ds ≠ [])
    (digits : ∀ d ∈ ds, d.isDigit) :
    if -2 ^ 63 ≤ signedValue sign ds ∧ signedValue sign ds < 2 ^ 63 then
      ∃ i : Int64, i.toInt = signedValue sign ds ∧ c.encode? p (.text s) = some (.int i)
    else if (ofScaled (digitsValue ds) 0).isFinite then
      c.encode? p (.text s)
        = some (.int (if sign = some .minus then Int64.minValue else Int64.maxValue))
    else c.encode? p (.text s) = absentNumber p := by
  have encoded : c.encode? p (.text s) =
      (readInteger? s).elim (absentNumber p) fun i => some (.int i) := by
    rewrite [encode?.eq_def, integer]
    dsimp only
    cases readInteger? s <;> rfl
  rw [encoded, readInteger?_signedText trimmed nonempty digits]
  by_cases inside : -2 ^ 63 ≤ signedValue sign ds ∧ signedValue sign ds < 2 ^ 63
  · rw [if_pos inside, if_pos inside]
    exact ⟨_, Int64.toInt_ofInt_of_le inside.1 inside.2, rfl⟩
  · rw [if_neg inside, if_neg inside]
    by_cases finite : (ofScaled (digitsValue ds) 0).isFinite
    · rw [if_pos finite, if_pos finite, Option.elim_some]
    · rw [if_neg finite, if_neg finite, Option.elim_none]

theorem encode?_integerText_below :
    Text.trim " -9223372036854775809".toList
        = signedText (some .minus) "9223372036854775809".toList ∧
      (⟨"a", .integer, 0, none, none⟩ : Column).encode? .reject (.text " -9223372036854775809")
        = some (.int Int64.minValue) := by
  have trimmed : Text.trim " -9223372036854775809".toList
      = signedText (some .minus) "9223372036854775809".toList := by decide
  have stored := encode?_integerText (c := ⟨"a", .integer, 0, none, none⟩) .reject rfl trimmed
    (by decide) (by simp)
  rw [if_neg (by decide), if_pos (by decide), if_pos rfl] at stored
  exact ⟨trimmed, stored⟩

/-- The first integer beyond 63 bits is stored as the one before it. -/
theorem encode?_integerText_saturated :
    ¬ ∀ (p : NumericPolicy) (c : Column) (s : String) (sign : Option Sign) (ds : List Char),
      c.kind = .integer → Text.trim s.toList = signedText sign ds → ds ≠ [] →
      (∀ d ∈ ds, d.isDigit) →
      (∃ i : Int64, i.toInt = signedValue sign ds ∧ c.encode? p (.text s) = some (.int i)) ∨
        c.encode? p (.text s) = absentNumber p := by
  intro claim
  have stored : (⟨"a", .integer, 0, none, none⟩ : Column).encode? .reject
      (.text "9223372036854775808") = some (.int Int64.maxValue) := by
    decide
  rcases claim .reject ⟨"a", .integer, 0, none, none⟩ "9223372036854775808" none
      "9223372036854775808".toList rfl (by decide) (by decide) (by simp)
    with ⟨i, value, -⟩ | refused
  · have denoted : signedValue none "9223372036854775808".toList = 2 ^ 63 := by
      decide
    rw [denoted] at value
    exact absurd value (Int64.toInt_lt i).ne
  · rw [stored] at refused
    cases refused

end SqlStore.Column
