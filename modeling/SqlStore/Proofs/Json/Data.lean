import SqlStore.Json.Reader
import SqlStore.Json.Basic
import SqlStore.Proofs.Dict
import SqlStore.Proofs.Json.Values

namespace SqlStore.Decimal

theorem ofInt_wellFormed (i : Int) : (Numeral.ofInt i).WellFormed where
  nonempty := Nat.toDigits_ne_nil
  digits _ mem := isDigit_toDigits mem
  noLeadingZero zero := by
    by_cases positive : 0 < i.natAbs
    · exact absurd zero (head?_toDigits positive)
    · have : i.natAbs = 0 := by omega
      simp [Numeral.ofInt, this]
  fraction _ mem := by cases mem
  exponent _ eq := by cases eq

end SqlStore.Decimal

namespace SqlStore.Json
open SqlStore.Decimal

theorem ofInt_wellFormed (i : Int) : (ofInt i).WellFormed :=
  .number (Decimal.ofInt_wellFormed i)

theorem number?_ofInt (i : Int64) : number? (Numeral.ofInt i.toInt) = some (.int i) := by
  have low := i.le_toInt
  have high := i.toInt_lt
  have value : digitsValue (Numeral.ofInt i.toInt).whole = i.toInt.natAbs := digitsValue_toDigits _
  have whole : (Numeral.ofInt i.toInt).fraction.isEmpty ∧
      (Numeral.ofInt i.toInt).exponent.isNone ∧ i.toInt.natAbs ≤ gatherLimit :=
    ⟨rfl, rfl, by rw [gatherLimit, Nat.pow_eq]; omega⟩
  rw [number?, value]
  simp only [whole, and_self, if_true, Nat.pow_eq]
  by_cases negative : i.toInt < 0
  · have sign : (Numeral.ofInt i.toInt).negative = true := decide_eq_true negative
    have eq : -(i.toInt.natAbs : Int) = i.toInt := by omega
    rw [if_pos sign, if_pos ⟨by omega, by omega⟩, eq, Int64.ofInt_toInt]
  · have sign : (Numeral.ofInt i.toInt).negative = false := decide_eq_false negative
    have eq : (i.toInt.natAbs : Int) = i.toInt := by omega
    rw [if_neg (by simp [sign]), if_pos (by omega), eq, Int64.ofInt_toInt]

theorem uint64?_ofInt (n : UInt64) : uint64? (ofInt (n.toNat : Int)) = some n := by
  have high := n.toNat_lt
  have value : digitsValue (Numeral.ofInt (n.toNat : Int)).whole = n.toNat := digitsValue_toDigits _
  have small : n.toNat ≤ gatherLimit := by
    rw [gatherLimit, Nat.pow_eq]
    omega
  have sign : (Numeral.ofInt (n.toNat : Int)).negative = false :=
    decide_eq_false (Int.not_lt.2 (Int.natCast_nonneg n.toNat))
  rw [ofInt, uint64?, value, sign]
  simp [Numeral.ofInt, small]

theorem char?_singleton (c : Char) : char? (ofString (String.singleton c)) = some c := by
  simp [char?, ofString, string?]

/-! ## Fields, lists and dictionaries -/

theorem optionalField?_map {α : Type} {read : Json → Option α} {write : α → Json}
    (each : ∀ x, read (write x) = some x) (present : ∀ x, write x ≠ .null) (x? : Option α) :
    optionalField? read (x?.map write) = some x? := by
  cases x? with
  | none => rfl
  | some x =>
      rw [Option.map_some, optionalField?, each]
      · rfl
      · exact fun eq => present x eq

theorem list?_map {α β : Type} {read : Json → Option β} {write : α → Json} {f : α → β}
    {xs : List α} (each : ∀ x ∈ xs, read (write x) = some (f x)) :
    list? read (.array (xs.map write)) = some (xs.map f) := by
  rw [list?]
  induction xs with
  | nil => rfl
  | cons x xs ih =>
      rw [List.map_cons, List.mapM_cons, each x List.mem_cons_self,
        ih fun y mem => each y (List.mem_cons_of_mem x mem)]
      rfl

theorem dict?_map {α : Type} {read : Json → Option α} {write : α → Json} (d : Dict α)
    (each : ∀ x ∈ d.values, read (write x) = some x) :
    dict? read (.ofMembers (d.map write).entries) = some d := by
  have members : ∀ es : List (String × α), (∀ e ∈ es, read (write e.2) = some e.2) →
      (es.map fun e => (some e.1, write e.2)).mapM
        (fun m : Option String × Json => do return (← m.1, ← read m.2)) = some es := by
    intro es each
    induction es with
    | nil => rfl
    | cons e es ih =>
        rw [List.map_cons, List.mapM_cons, ih fun x mem => each x (List.mem_cons_of_mem e mem)]
        simp [each e List.mem_cons_self]
  have entries := members d.entries fun e mem => each e.2 (List.mem_map_of_mem mem)
  rw [ofMembers, dict?, Dict.map, List.map_map]
  simp only [Function.comp_def]
  rw [entries]
  exact congrArg some d.ofList_entries

theorem array_wellFormed {α : Type} {write : α → Json} {xs : List α}
    (each : ∀ x ∈ xs, (write x).WellFormed) : (Json.array (xs.map write)).WellFormed := by
  refine .array fun j mem => ?_
  obtain ⟨x, mem', rfl⟩ := List.mem_map.1 mem
  exact each x mem'

theorem ofMembers_wellFormed {α : Type} {write : α → Json} (d : Dict α)
    (each : ∀ x ∈ d.values, (write x).WellFormed) :
    (ofMembers (d.map write).entries).WellFormed := by
  refine .object fun m mem => ?_
  obtain ⟨e, mem', rfl⟩ := List.mem_map.1 mem
  exact each e.2 (List.mem_map_of_mem mem')

end SqlStore.Json
