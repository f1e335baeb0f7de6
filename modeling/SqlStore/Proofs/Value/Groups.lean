import SqlStore.Proofs.Value.Order

/-!
# Values that group together

Grouping takes two values for one where they are strictly equal or both no numbers. This is an
equivalence, although strict equality itself is not: no number is equal to itself. Values of one kind
that group together also compare as equal, unless they are no numbers.
-/

namespace SqlStore.Value

theorem sameGroup_iff {a b : Value} : a.sameGroup b = true ↔
    a = b ∨ ∃ x y : Float, a = .float x ∧ b = .float y ∧ (x == y) = true := by
  cases a with
  | float x =>
      cases b with
      | float y =>
          simp only [sameGroup, same, isNaN, Float.isNaN_eq_decide_eq_nan, Bool.or_eq_true,
            Bool.and_eq_true, decide_eq_true_eq]
          constructor
          · rintro (equal | ⟨rfl, rfl⟩)
            · exact .inr ⟨x, y, rfl, rfl, equal⟩
            · exact .inl rfl
          · rintro (⟨⟨⟩⟩ | ⟨_, _, ⟨⟩, ⟨⟩, equal⟩)
            · by_cases number : x = Float.nan
              · exact .inr ⟨number, number⟩
              · exact .inl (Float.beq_self_iff.2 number)
            · exact .inl equal
      | _ => simp [sameGroup, same, isNaN]
  | _ => cases b <;> simp [sameGroup, same, isNaN]

theorem sameGroup_equivalence : Equivalence fun a b : Value => a.sameGroup b = true where
  refl a := sameGroup_iff.2 (.inl rfl)
  symm := by
    intro a b related
    rcases sameGroup_iff.1 related with rfl | ⟨x, y, rfl, rfl, equal⟩
    · exact related
    · exact sameGroup_iff.2 (.inr ⟨y, x, rfl, rfl, BEq.symm equal⟩)
  trans := by
    intro a b c first second
    rcases sameGroup_iff.1 first with rfl | ⟨x, y, rfl, rfl, near⟩
    · exact second
    rcases sameGroup_iff.1 second with rfl | ⟨_, z, ⟨⟩, rfl, far⟩
    · exact first
    exact sameGroup_iff.2 (.inr ⟨x, z, rfl, rfl, BEq.trans near far⟩)

/-! ## Grouping and comparing -/

theorem compareFloat_eq_iff {x y : Float} : compareFloat x y = some .eq ↔ (x == y) = true := by
  rw [compareFloat]
  by_cases equal : (x == y) = true
  · have notLess : ¬ x < y := by
      rw [lt_iff_unpacked, beq_iff_unpacked.1 equal]
      decide
    rw [if_neg notLess, if_pos equal]
    exact iff_of_true rfl equal
  · refine iff_of_false ?_ equal
    split_ifs <;> decide

theorem compare?_of_same {a b : Value} (same : a.same b) : a.compare? b = some .eq := by
  rcases sameGroup_iff.1 (Bool.or_eq_true_iff.2 (.inl same)) with rfl | ⟨x, y, rfl, rfl, equal⟩
  · cases a with
    | float x => exact compareFloat_eq_iff.2 same
    | text s => simp [compare?, compareText]
    | date t => simp [compare?, Calendar.Instant.compare]
    | bool b => cases b <;> rfl
    | int i => simp [compare?]
    | null => rfl
  · exact compareFloat_eq_iff.2 equal

theorem compare?_of_isNaN {a b : Value} (nan : a.isNaN) : a.compare? b ≠ some .eq := by
  cases a with
  | float x =>
      have differs (y : Float) : compareFloat x y ≠ some .eq := by
        intro compared
        have equal := compareFloat_eq_iff.1 compared
        have self : (x == x) = true := BEq.trans equal (BEq.symm equal)
        rw [isNaN, Float.isNaN_eq_decide_eq_nan, decide_eq_true_iff] at nan
        exact Float.beq_self_iff.1 self nan
      cases b with
      | int i => exact differs (Decimal.ofInt64 i)
      | float y => exact differs y
      | _ => nofun
  | _ => cases nan

theorem compare?_eq_iff_sameGroup {a b : Value} (number : b.isNaN = false)
    (kind : a.isNaN = false → a ≠ .null → b ≠ .null → a.SameKind b) :
    a.compare? b = some .eq ↔ a.sameGroup b = true := by
  have group : a.sameGroup b = a.same b := by
    rw [sameGroup, number, Bool.and_false, Bool.or_false]
  rw [group]
  refine ⟨fun compared => ?_, compare?_of_same⟩
  cases nan : a.isNaN with
  | true => exact absurd compared (compare?_of_isNaN nan)
  | false => exact relates_of_compare? (kind nan) compared

end SqlStore.Value
