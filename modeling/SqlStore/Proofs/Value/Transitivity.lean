import SqlStore.Proofs.Decimal.IntegerOrder
import SqlStore.Proofs.Value.Groups

/-!
# Chains of comparisons

Two integers compare exactly, while an integer next to a binary64 number is rounded to one. So
comparing numbers is transitive as long as rounding makes no two integers of the chain one number.
-/

namespace SqlStore

open Decimal (integerPlace floatPlace_ofInt64 compare_integerPlace ofInt64_isFinite)

namespace Value

def numberPlace : Value → List Int
  | .int i => integerPlace i.toInt
  | .float x => floatPlace x
  | _ => []

theorem ofInt64_isNaN (i : Int64) : (Decimal.ofInt64 i).isNaN = false := by
  have finite := ofInt64_isFinite i
  change (Decimal.ofInt64 i).toModel.unpack.isFinite = true at finite
  change (Decimal.ofInt64 i).toModel.unpack.isNaN = false
  cases unpacked : (Decimal.ofInt64 i).toModel.unpack with
  | notANumber =>
      rw [unpacked] at finite
      cases finite
  | _ => rfl

theorem compare?_numberPlace {a b : Value} (numberA : a.IsNumber) (numberB : b.IsNumber)
    (mixed : ∀ i j, a = .int i → b ≠ .int j) :
    a.compare? b = some (compare a.numberPlace b.numberPlace) := by
  have place (i : Int64) {y : Float} (number : y.isNaN = false) :=
    floatPlace_ofInt64 i ▸ compareFloat_place (ofInt64_isNaN i) number
  have place' {x : Float} (number : x.isNaN = false) (i : Int64) :=
    floatPlace_ofInt64 i ▸ compareFloat_place number (ofInt64_isNaN i)
  cases a with
  | int i =>
      cases b with
      | int j => exact absurd rfl (mixed i j rfl)
      | float y => exact place i numberB
      | _ => cases numberB
  | float x =>
      cases b with
      | int j => exact place' numberA j
      | float y => exact compareFloat_place numberA numberB
      | _ => cases numberB
  | _ => cases numberA

theorem isLE_numberPlace {i j : Int64} (le : (compare i.toInt j.toInt).isLE) :
    (compare (numberPlace (.int i)) (numberPlace (.int j))).isLE := by
  rcases lt_trichotomy i.toInt j.toInt with less | equal | more
  · exact Ordering.isLE_iff_ne_gt.2 (compare_integerPlace less).1
  · rw [numberPlace, numberPlace, equal, @Std.ReflCmp.compare_self _ compare]
    rfl
  · rw [compare_gt_iff_gt.2 more] at le
    cases le

theorem compare_between {p q r : List Int} (first : (compare p q).isLE)
    (second : (compare q r).isLE) : (compare p r).isLE ∧
      (compare p r = .eq → compare p q = .eq ∧ compare q r = .eq) := by
  refine ⟨Std.TransCmp.isLE_trans first second, fun equal => ?_⟩
  obtain rfl := Std.LawfulEqCmp.eq_of_compare equal
  exact ⟨Std.OrientedCmp.isLE_antisymm first second, Std.OrientedCmp.isLE_antisymm second first⟩

/-! ## Merged integers -/

def RoundsTo (i : Int64) (x : Float) : Prop :=
  (Decimal.ofInt64 i == x) = true

/-- Two integers that are rounded to one binary64 number, with that number beside or between them,
so that comparing each with it forgets which of them is less. -/
inductive Merged : Value → Value → Value → Prop
  | between {i j : Int64} {x : Float} :
      i.toInt < j.toInt → RoundsTo i x → RoundsTo j x → Merged (.int j) (.float x) (.int i)
  | below {i j : Int64} {x : Float} :
      i.toInt < j.toInt → RoundsTo i x → RoundsTo j x → Merged (.int i) (.int j) (.float x)
  | above {i j : Int64} {x : Float} :
      i.toInt < j.toInt → RoundsTo i x → RoundsTo j x → Merged (.float x) (.int i) (.int j)

theorem roundsTo_iff {i : Int64} {x : Float} (number : x.isNaN = false) :
    RoundsTo i x ↔ compare (numberPlace (.int i)) (floatPlace x) = .eq := by
  rw [RoundsTo, ← compareFloat_eq_iff, compareFloat_place (ofInt64_isNaN i) number,
    floatPlace_ofInt64, Option.some_inj]
  rfl

theorem roundsTo_iff' {i : Int64} {x : Float} (number : x.isNaN = false) :
    RoundsTo i x ↔ compare (floatPlace x) (numberPlace (.int i)) = .eq := by
  rw [roundsTo_iff number, Std.OrientedCmp.eq_comm]

theorem exists_large_of_merged {i j : Int64} {x : Float} (less : i.toInt < j.toInt)
    (first : RoundsTo i x) (second : RoundsTo j x) :
    2 ^ 53 < i.toInt.natAbs ∨ 2 ^ 53 < j.toInt.natAbs := by
  have equal : (Decimal.ofInt64 i == Decimal.ofInt64 j) = true := BEq.trans first (BEq.symm second)
  rw [← compareFloat_eq_iff, compareFloat_place (ofInt64_isNaN i) (ofInt64_isNaN j),
    floatPlace_ofInt64, floatPlace_ofInt64, Option.some_inj] at equal
  by_contra small
  rw [(compare_integerPlace less).2 (by omega) (by omega)] at equal
  cases equal

/-! ## Chains -/

/-- What transitivity says of a chain: its ends compare as its steps do, and they are equal only if
both steps were. -/
def Chains (first second ends : Ordering) : Prop :=
  first.isLE → second.isLE → ends.isLE ∧ (ends = .eq → first = .eq ∧ second = .eq)

theorem chains_places (p q r : List Int) : Chains (compare p q) (compare q r) (compare p r) :=
  compare_between

theorem chains_integers (i j k : Int) : Chains (compare i j) (compare j k) (compare i k) := by
  intro first second
  rw [Int.compare_eq_eq, Int.compare_eq_eq, Int.compare_eq_eq]
  rw [Int.isLE_compare] at first second ⊢
  omega

theorem chains_below {i j : Int64} {z : Float} (number : z.isNaN = false) :
    Chains (compare i.toInt j.toInt) (compare (numberPlace (.int j)) (floatPlace z))
        (compare (numberPlace (.int i)) (floatPlace z)) ↔
      ¬ Merged (.int i) (.int j) (.float z) := by
  constructor
  · intro chains merged
    cases merged with | below less first second =>
    rw [roundsTo_iff number] at first second
    rw [first, second, compare_lt_iff_lt.2 less] at chains
    exact nomatch ((chains rfl rfl).2 rfl).1
  · intro apart first second
    obtain ⟨le, equal⟩ := compare_between (isLE_numberPlace first) second
    refine ⟨le, fun ends => ⟨?_, (equal ends).2⟩⟩
    rcases lt_trichotomy i.toInt j.toInt with less | same | more
    · refine absurd (.below less ?_ ?_) apart
      · exact (roundsTo_iff number).2 ends
      · exact (roundsTo_iff number).2 (equal ends).2
    · exact compare_eq_iff_eq.2 same
    · rw [compare_gt_iff_gt.2 more] at first
      cases first

theorem chains_above {x : Float} {i j : Int64} (number : x.isNaN = false) :
    Chains (compare (floatPlace x) (numberPlace (.int i))) (compare i.toInt j.toInt)
        (compare (floatPlace x) (numberPlace (.int j))) ↔
      ¬ Merged (.float x) (.int i) (.int j) := by
  constructor
  · intro chains merged
    cases merged with | above less first second =>
    rw [roundsTo_iff' number] at first second
    rw [first, second, compare_lt_iff_lt.2 less] at chains
    exact nomatch ((chains rfl rfl).2 rfl).2
  · intro apart first second
    obtain ⟨le, equal⟩ := compare_between first (isLE_numberPlace second)
    refine ⟨le, fun ends => ⟨(equal ends).1, ?_⟩⟩
    rcases lt_trichotomy i.toInt j.toInt with less | same | more
    · refine absurd (.above less ?_ ?_) apart
      · exact (roundsTo_iff' number).2 (equal ends).1
      · exact (roundsTo_iff' number).2 ends
    · exact compare_eq_iff_eq.2 same
    · rw [compare_gt_iff_gt.2 more] at second
      cases second

theorem chains_around {i j : Int64} {y : Float} (number : y.isNaN = false) :
    Chains (compare (numberPlace (.int i)) (floatPlace y))
        (compare (floatPlace y) (numberPlace (.int j))) (compare i.toInt j.toInt) ↔
      ¬ Merged (.int i) (.float y) (.int j) := by
  constructor
  · intro chains merged
    cases merged with | between less first second =>
    rw [roundsTo_iff' number] at first
    rw [roundsTo_iff number] at second
    rw [first, second, compare_gt_iff_gt.2 less] at chains
    exact nomatch (chains rfl rfl).1
  · intro apart first second
    obtain ⟨le, equal⟩ := compare_between first second
    rcases lt_trichotomy i.toInt j.toInt with less | same | more
    · rw [compare_lt_iff_lt.2 less]
      exact ⟨rfl, nofun⟩
    · rw [compare_eq_iff_eq.2 same]
      refine ⟨rfl, fun _ => equal ?_⟩
      rw [numberPlace, numberPlace, same]
      exact Std.ReflCmp.compare_self
    · -- Rounding keeps the order, so all three have one place.
      have ge := Ordering.isLE_iff_ne_gt.2 (compare_integerPlace more).1
      obtain ⟨first, second⟩ := equal (Std.OrientedCmp.isLE_antisymm le ge)
      refine absurd (.between more ?_ ?_) apart
      · exact (roundsTo_iff' number).2 second
      · exact (roundsTo_iff number).2 first

/-- Numbers are comparable, and comparing them is transitive but for two different integers that are
rounded to the third number of the chain. One of these has more than 53 bits. -/
theorem compare?_chains {a b c : Value} (numberA : a.IsNumber) (numberB : b.IsNumber)
    (numberC : c.IsNumber) : ∃ ab bc ac,
      a.compare? b = some ab ∧ b.compare? c = some bc ∧ a.compare? c = some ac ∧
      (Chains ab bc ac ↔ ¬ Merged a b c) ∧
      (Merged a b c → ∃ i, .int i ∈ [a, b, c] ∧ 2 ^ 53 < i.toInt.natAbs) := by
  have large : Merged a b c → ∃ i, .int i ∈ [a, b, c] ∧ 2 ^ 53 < i.toInt.natAbs := by
    rintro (⟨less, first, second⟩ | ⟨less, first, second⟩ | ⟨less, first, second⟩) <;>
      rcases exists_large_of_merged less first second with large | large <;>
      exact ⟨_, by simp, large⟩
  cases a with
  | int i =>
      cases b with
      | int j =>
          cases c with
          | int k =>
              exact ⟨_, _, _, rfl, rfl, rfl, iff_of_true (chains_integers _ _ _) nofun, large⟩
          | float z =>
              have second := compare?_numberPlace numberB numberC nofun
              have ends := compare?_numberPlace numberA numberC nofun
              exact ⟨_, _, _, rfl, second, ends, chains_below numberC, large⟩
          | _ => cases numberC
      | float y =>
          have first := compare?_numberPlace numberA numberB nofun
          have second := compare?_numberPlace numberB numberC nofun
          cases c with
          | int k => exact ⟨_, _, _, first, second, rfl, chains_around numberB, large⟩
          | float z =>
              have ends := compare?_numberPlace numberA numberC nofun
              exact ⟨_, _, _, first, second, ends, iff_of_true (chains_places _ _ _) nofun, large⟩
          | _ => cases numberC
      | _ => cases numberB
  | float x =>
      have first := compare?_numberPlace numberA numberB nofun
      have ends := compare?_numberPlace numberA numberC nofun
      cases b with
      | int j =>
          cases c with
          | int k => exact ⟨_, _, _, first, rfl, ends, chains_above numberA, large⟩
          | float z =>
              have second := compare?_numberPlace numberB numberC nofun
              exact ⟨_, _, _, first, second, ends, iff_of_true (chains_places _ _ _) nofun, large⟩
          | _ => cases numberC
      | float y =>
          have second := compare?_numberPlace numberB numberC nofun
          exact ⟨_, _, _, first, second, ends, iff_of_true (chains_places _ _ _) nofun, large⟩
      | _ => cases numberB
  | _ => cases numberA

theorem compare?_chains_next :
    let a : Value := .int 9007199254740991
    let b : Value := .float (Decimal.ofInt64 9007199254740992)
    let c : Value := .int 9007199254740993
    a.IsNumber ∧ b.IsNumber ∧ c.IsNumber ∧ ∃ ab bc ac,
      a.compare? b = some ab ∧ b.compare? c = some bc ∧ a.compare? c = some ac ∧
      Chains ab bc ac := by
  intro a b c
  have number : b.IsNumber := ofInt64_isNaN _
  obtain ⟨ab, bc, ac, first, second, ends, chains, -⟩ :=
    compare?_chains (a := a) (c := c) trivial number trivial
  refine ⟨trivial, number, trivial, ab, bc, ac, first, second, ends, chains.2 fun merged => ?_⟩
  change Merged (.int 9007199254740991) (.float _) (.int 9007199254740993) at merged
  cases merged with
  | between less => exact absurd less (by decide)

/-- The integer after `2 ^ 53` is equal to that binary64 number, which is equal to that integer. -/
theorem compare?_merged :
    let a : Value := .int 9007199254740993
    let b : Value := .float (Decimal.ofInt64 9007199254740992)
    let c : Value := .int 9007199254740992
    a.IsNumber ∧ b.IsNumber ∧ c.IsNumber ∧
      a.compare? b = some .eq ∧ b.compare? c = some .eq ∧ a.compare? c = some .gt := by
  intro a b c
  exact ⟨trivial, ofInt64_isNaN _, trivial, by decide, by decide, rfl⟩

end Value

end SqlStore
