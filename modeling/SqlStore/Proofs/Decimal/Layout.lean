import Mathlib.Data.List.DropRight
import SqlStore.Decimal.Layout
import SqlStore.Proofs.Json.Tokens

namespace SqlStore.Decimal

/-! ## Chosen digits -/

structure Digits.Proper (d : Digits) : Prop where
  nonempty : d.digits ≠ []
  digits : ∀ c ∈ d.digits, c.isDigit
  noLeadingZero : d.digits.head? = some '0' → d.digits.length ≤ 1 ∧ d.point ≤ 1

theorem Digits.ofScaled_proper {c : Nat} (positive : 0 < c) (e : Int) :
    (Digits.ofScaled c e).Proper := by
  have kept : (ofScaled c e).digits <+: Nat.toDigits 10 c := List.rdropWhile_prefix _ _
  obtain ⟨d, ds, digits, -⟩ := toDigits_cons c
  have first : d ≠ '0' := by
    have := head?_toDigits positive
    rw [digits, List.head?_cons] at this
    exact fun zero => this (congrArg some zero)
  have nonempty : (ofScaled c e).digits ≠ [] := by
    intro none
    have zeros := List.rdropWhile_eq_nil_iff.1 none d (by rw [digits]; exact List.mem_cons_self)
    exact first (eq_of_beq zeros)
  refine ⟨nonempty, fun c mem => isDigit_toDigits (kept.subset mem), fun zero => ?_⟩
  obtain ⟨rest, eq⟩ := kept
  have head : ((ofScaled c e).digits ++ rest).head? = some '0' :=
    (List.head?_append_of_ne_nil _ nonempty).trans zero
  rw [eq, digits, List.head?_cons, Option.some.injEq] at head
  exact absurd head first

namespace Interval

variable {i : Interval} {tie : Tie} {c : Nat}

theorem holds_pos (low : 0 < i.low) (holds : i.holds c) : 0 < c := by
  apply Nat.pos_of_ne_zero
  rintro rfl
  rw [Interval.holds, Nat.zero_mul] at holds
  split at holds
  all_goals
    simp only [Bool.and_eq_true, decide_eq_true_eq] at holds
    omega

theorem holds_of_nearest? (found : i.nearest? tie = some c) : i.holds c := by
  rw [nearest?.eq_def] at found
  dsimp only at found
  split at found
  · cases found
  · cases found
    assumption
  · cases found
    assumption
  · split at found
    · cases found
      assumption
    · cases found
      assumption
    · split at found
      · cases found
        assumption
      · cases found
        split <;> assumption

theorem scale_low (low : 0 < i.low) (e : Int) : 0 < (i.scale e).low :=
  Nat.mul_pos low (Nat.pow_pos (by decide))

theorem search_proper (low : 0 < i.low) {steps : Nat} {e : Int} {d : Digits}
    (found : i.search tie steps e = some d) : d.Proper := by
  induction steps generalizing e with
  | zero => cases found
  | succ steps ih =>
      rw [search] at found
      split at found
      · rename_i c nearest
        cases found
        exact Digits.ofScaled_proper (holds_pos (scale_low low e) (holds_of_nearest? nearest)) e
      · exact ih found

end Interval

namespace Magnitude

variable {x : Magnitude}

theorem interval_low (positive : 0 < x.significand) : 0 < x.interval.low := by
  refine Nat.mul_pos ?_ (Nat.pow_pos (by decide))
  split <;> omega

theorem exact_proper (positive : 0 < x.significand) : x.exact.Proper := by
  rw [exact]
  split
  all_goals exact Digits.ofScaled_proper (Nat.mul_pos positive (Nat.pow_pos (by decide))) _

theorem shortest_proper (tie : Tie) (x : Magnitude) : (x.shortest tie).Proper := by
  rw [shortest]
  split
  · exact ⟨by simp, List.forall_mem_singleton.2 rfl, by simp⟩
  · rename_i nonzero
    have positive : 0 < x.significand := Nat.pos_of_ne_zero nonzero
    cases found : x.interval.search tie 17 (x.interval.scaleOf - 1) with
    | none => exact exact_proper positive
    | some d => exact Interval.search_proper (interval_low positive) found

end Magnitude

/-! ## Numerals -/

theorem isDigit_replicate_zero {n : Nat} {c : Char} (mem : c ∈ List.replicate n '0') :
    c.isDigit := by
  rw [(List.mem_replicate.1 mem).2]
  decide

namespace Layout

variable (l : Layout) (negative : Bool)

theorem numeral_wellFormed {d : Digits} (proper : d.Proper) :
    (l.numeral negative d).WellFormed := by
  obtain ⟨nonempty, digits, noLeadingZero⟩ := proper
  have all {ds : List Char} (part : ds ⊆ d.digits) : ∀ c ∈ ds, c.isDigit :=
    fun c mem => digits c (part mem)
  rw [numeral]
  dsimp only
  split
  · split
    -- All digits stand behind the point, after as many zeros as are missing.
    · refine ⟨by simp, by simp, by simp, fun c mem => ?_, nofun⟩
      rcases List.mem_append.1 mem with mem | mem
      · exact isDigit_replicate_zero mem
      · exact digits c mem
    · split
      · rename_i behind short
        refine ⟨by simp [nonempty], fun c mem => ?_, fun zero => ?_, fun c mem => ?_, nofun⟩
        · rcases List.mem_append.1 mem with mem | mem
          · exact digits c mem
          · exact isDigit_replicate_zero mem
        · rw [List.head?_append_of_ne_nil _ nonempty] at zero
          have := noLeadingZero zero
          simp only [List.length_append, List.length_replicate]
          omega
        · split at mem
          · exact isDigit_replicate_zero (n := 1) mem
          · cases mem
      · rename_i behind long
        have some : d.point.toNat ≠ 0 := by omega
        refine ⟨by simp [nonempty, some], all (List.take_subset _ _), fun zero => ?_,
          all (List.drop_subset _ _), nofun⟩
        rw [List.head?_take, if_neg some] at zero
        have := noLeadingZero zero
        simp only [List.length_take]
        omega
  · refine ⟨by simp [nonempty], all (List.take_subset _ _), fun _ => ?_,
      all (List.drop_subset _ _), fun e eq => ?_⟩
    · exact List.length_take_le _ _
    · cases eq
      exact ⟨Nat.toDigits_ne_nil, fun c => isDigit_toDigits⟩

theorem finite_wellFormed (x : Float) : (l.finite x).WellFormed :=
  l.numeral_wellFormed _ (Magnitude.shortest_proper _ _)

end Layout

end SqlStore.Decimal
