import SqlStore.Proofs.Query.Grouping

/-!
# Sums of integers

A sum of integers is exact as long as the running sum is one of 64 bits. Where it leaves them, it
goes on in binary64 numbers and never comes back, so that a sum may depend on the order of its
rows. It does not if the positive integers alone and the negative ones alone sum up within 64 bits.
-/

namespace SqlStore.Query

open Sql (ColumnRef Expr)

/-! ## Integers among values -/

def InRange (z : Int) : Prop :=
  Int64.minValue.toInt ≤ z ∧ z ≤ Int64.maxValue.toInt

instance (z : Int) : Decidable (InRange z) :=
  inferInstanceAs (Decidable (_ ∧ _))

theorem inRange_toInt (i : Int64) : InRange i.toInt :=
  ⟨Int64.minValue_le_toInt i, Int64.toInt_le i⟩

def integer? : Value → Option Int
  | .int i => some i.toInt
  | _ => none

def integers (vs : List Value) : List Int :=
  vs.filterMap integer?

def Addend (v : Value) : Prop :=
  v = .null ∨ v.isNaN ∨ ∃ i, v = .int i

theorem Addend.summable {v : Value} (addend : Addend v) : summable v := by
  rcases addend with rfl | nan | ⟨i, rfl⟩
  · rfl
  · cases v with
    | float x => rfl
    | _ => cases nan
  · rfl

theorem Addend.cases {v : Value} (addend : Addend v) :
    (∃ i : Int64, v = .int i) ∨ integer? v = none ∧ ∀ total, addToSum total v = total := by
  rcases addend with rfl | nan | integer
  · refine .inr ⟨rfl, fun total => ?_⟩
    cases total <;> rfl
  · refine .inr ⟨?_, fun total => if_pos nan⟩
    cases v with
    | float x => rfl
    | _ => cases nan
  · exact .inl integer

/-! ## The running sum -/

theorem addInts_of_inRange {a b : Int64} (fits : InRange (a.toInt + b.toInt)) :
    ∃ i : Int64, addInts a b = .int i ∧ i.toInt = a.toInt + b.toInt :=
  ⟨_, if_pos fits, Int64.toInt_ofInt_of_le fits.1 (Int.lt_of_le_of_lt fits.2 (by decide))⟩

theorem addInts_of_not_inRange {a b : Int64} (leaves : ¬ InRange (a.toInt + b.toInt)) :
    ∃ x, addInts a b = .float x :=
  ⟨_, if_neg leaves⟩

/-- Whether the running sum of the integers among values, from a first one on, is of 64 bits
throughout. -/
def StaysInRange (start : Int) (vs : List Value) : Prop :=
  ∀ before, before <+: vs → InRange (start + (integers before).sum)

theorem StaysInRange.start {start : Int} {vs : List Value} (stays : StaysInRange start vs) :
    InRange start := by
  simpa [integers] using stays [] List.nil_prefix

theorem staysInRange_nil {start : Int} : StaysInRange start [] ↔ InRange start := by
  simp [StaysInRange, integers]

theorem staysInRange_cons {start : Int} {v : Value} {vs : List Value} :
    StaysInRange start (v :: vs) ↔
      InRange start ∧ StaysInRange (start + (integer? v).getD 0) vs := by
  have sum (before : List Value) : start + (integers (v :: before)).sum =
      start + (integer? v).getD 0 + (integers before).sum := by
    rw [integers, List.filterMap_cons]
    cases integer? v with
    | none => simp [integers]
    | some z => simp [integers, Int.add_assoc]
  constructor
  · intro stays
    refine ⟨stays.start, fun before le => ?_⟩
    rw [← sum]
    exact stays _ (List.prefix_cons_inj v |>.2 le)
  · rintro ⟨here, stays⟩ before le
    rcases List.prefix_cons_iff.1 le with rfl | ⟨before, rfl, le'⟩
    · simpa [integers] using here
    · rw [sum]
      exact stays before le'

section Running

variable {vs : List Value} (addends : ∀ v ∈ vs, Addend v)
include addends

theorem foldl_addToSum_float (x : Float) : ∃ y, vs.foldl addToSum (.float x) = .float y := by
  induction vs generalizing x with
  | nil => exact ⟨x, rfl⟩
  | cons v vs ih =>
      obtain ⟨first, rest⟩ := List.forall_mem_cons.1 addends
      rw [List.foldl_cons]
      rcases first.cases with ⟨i, rfl⟩ | ⟨-, idle⟩
      · exact ih rest _
      · rw [idle]
        exact ih rest x

theorem foldl_addToSum_of_stays {a : Int64} (stays : StaysInRange a.toInt vs) :
    ∃ i : Int64, vs.foldl addToSum (.int a) = .int i ∧ i.toInt = a.toInt + (integers vs).sum := by
  induction vs generalizing a with
  | nil => exact ⟨a, rfl, (Int.add_zero _).symm⟩
  | cons v vs ih =>
      obtain ⟨first, rest⟩ := List.forall_mem_cons.1 addends
      obtain ⟨-, stays⟩ := staysInRange_cons.1 stays
      rw [List.foldl_cons]
      rcases first.cases with ⟨i, rfl⟩ | ⟨none, idle⟩
      · obtain ⟨b, added, value⟩ := addInts_of_inRange stays.start
        have sum : addToSum (.int a) (.int i) = .int b := added
        have later : StaysInRange b.toInt vs := value ▸ stays
        obtain ⟨total, found, exact⟩ := ih rest later
        refine ⟨total, sum ▸ found, ?_⟩
        rw [exact, value]
        simp [integers, integer?, Int.add_assoc]
      · rw [none, Option.getD_none, Int.add_zero] at stays
        obtain ⟨total, found, exact⟩ := ih rest stays
        refine ⟨total, by rw [idle, found], ?_⟩
        rw [exact, integers, integers, List.filterMap_cons_none none]

theorem foldl_addToSum_of_leaves {a : Int64} (leaves : ¬ StaysInRange a.toInt vs) :
    ∃ x, vs.foldl addToSum (.int a) = .float x := by
  induction vs generalizing a with
  | nil => exact absurd (staysInRange_nil.2 (inRange_toInt a)) leaves
  | cons v vs ih =>
      obtain ⟨first, rest⟩ := List.forall_mem_cons.1 addends
      have later : ¬ StaysInRange (a.toInt + (integer? v).getD 0) vs := fun stays =>
        leaves (staysInRange_cons.2 ⟨inRange_toInt a, stays⟩)
      rw [List.foldl_cons]
      rcases first.cases with ⟨i, rfl⟩ | ⟨none, idle⟩
      · by_cases fits : InRange (a.toInt + i.toInt)
        · obtain ⟨b, added, value⟩ := addInts_of_inRange fits
          have sum : addToSum (.int a) (.int i) = .int b := added
          rw [sum]
          exact ih rest (value ▸ later)
        · obtain ⟨x, added⟩ := addInts_of_not_inRange fits
          have sum : addToSum (.int a) (.int i) = .float x := added
          rw [sum]
          exact foldl_addToSum_float rest x
      · rw [none, Option.getD_none, Int.add_zero] at later
        rw [idle]
        exact ih rest later

theorem sum_eq_foldl_zero (nonempty : integers vs ≠ []) : sum vs = vs.foldl addToSum (.int 0) := by
  rw [sum]
  -- Both folds are left as they are until the first integer, which makes them the same.
  induction vs with
  | nil => exact absurd rfl nonempty
  | cons v vs ih =>
      obtain ⟨first, rest⟩ := List.forall_mem_cons.1 addends
      rw [List.foldl_cons, List.foldl_cons]
      rcases first.cases with ⟨i, rfl⟩ | ⟨none, idle⟩
      · have zero : addInts 0 i = .int i := by
          obtain ⟨b, added, value⟩ := addInts_of_inRange (a := 0) (b := i)
            (by simpa using inRange_toInt i)
          have same : b = i := Int64.toInt_inj.1 (by simpa using value)
          rw [added, same]
        exact congrArg (vs.foldl addToSum) zero.symm
      · rw [idle, idle]
        refine ih rest fun empty => nonempty ?_
        rw [integers, List.filterMap_cons_none none]
        exact empty

theorem sum_cases (nonempty : integers vs ≠ []) :
    (StaysInRange 0 vs ∧ ∃ i : Int64, sum vs = .int i ∧ i.toInt = (integers vs).sum) ∨
      ¬ StaysInRange 0 vs ∧ ∃ x, sum vs = .float x := by
  rw [sum_eq_foldl_zero addends nonempty]
  by_cases stays : StaysInRange 0 vs
  · obtain ⟨i, found, exact⟩ := foldl_addToSum_of_stays addends (a := 0) stays
    exact .inl ⟨stays, i, found, by simpa using exact⟩
  · exact .inr ⟨stays, foldl_addToSum_of_leaves addends (a := 0) stays⟩

end Running

/-! ## Orders of the values -/

def gains (vs : List Value) : Int :=
  ((integers vs).filter (0 < ·)).sum

def losses (vs : List Value) : Int :=
  ((integers vs).filter (· < 0)).sum

theorem gains_losses (vs : List Value) :
    0 ≤ gains vs ∧ losses vs ≤ 0 ∧ (integers vs).sum = gains vs + losses vs := by
  rw [gains, losses]
  induction integers vs with
  | nil => exact ⟨le_rfl, le_rfl, rfl⟩
  | cons z zs ih =>
      by_cases positive : 0 < z
      · have notNegative : ¬ z < 0 := Int.not_lt.2 (Int.le_of_lt positive)
        simp only [List.filter_cons, positive, notNegative, decide_true, decide_false, if_true,
          Bool.false_eq_true, if_false, List.sum_cons]
        omega
      · by_cases negative : z < 0
        · simp only [List.filter_cons, positive, negative, decide_true, decide_false, if_true,
            Bool.false_eq_true, if_false, List.sum_cons]
          omega
        · simp only [List.filter_cons, positive, negative, decide_false, Bool.false_eq_true,
            if_false, List.sum_cons]
          omega

theorem gains_append (vs ws : List Value) : gains (vs ++ ws) = gains vs + gains ws := by
  simp [gains, integers]

theorem losses_append (vs ws : List Value) : losses (vs ++ ws) = losses vs + losses ws := by
  simp [losses, integers]

theorem staysInRange_of_inRange {vs : List Value} (above : InRange (gains vs))
    (below : InRange (losses vs)) : StaysInRange 0 vs := by
  rintro before ⟨later, rfl⟩
  have highest := above.2
  have lowest := below.1
  rw [gains_append] at highest
  rw [losses_append] at lowest
  have := gains_losses before
  have := gains_losses later
  rw [Int.zero_add]
  constructor <;> omega

def arranged (p : Int → Bool) {α : Type} (value : α → Value) (xs : List α) : List α :=
  xs.filter (fun x => (integer? (value x)).any p) ++
    xs.filter fun x => !(integer? (value x)).any p

theorem arranged_perm (p : Int → Bool) {α : Type} (value : α → Value) (xs : List α) :
    (arranged p value xs).Perm xs :=
  List.filter_append_perm _ xs

theorem inRange_of_arranged (p : Int → Bool) {α : Type} (value : α → Value) {xs : List α}
    (stays : StaysInRange 0 ((arranged p value xs).map value)) :
    InRange ((integers (xs.map value)).filter p).sum := by
  have first : integers ((xs.filter fun x => (integer? (value x)).any p).map value) =
      (integers (xs.map value)).filter p := by
    rw [integers, integers, List.filterMap_map, List.filterMap_map, List.filterMap_filter,
      List.filter_filterMap]
    refine List.filterMap_congr fun x _ => ?_
    rw [Function.comp_apply]
    cases integer? (value x) with
    | none => simp
    | some z => cases holds : p z <;> simp [holds, Option.filter]
  -- The running sum is that of the integers of this sort once it has taken all of them.
  have sum := stays ((xs.filter fun x => (integer? (value x)).any p).map value) (by
    rw [arranged, List.map_append]
    exact List.prefix_append _ _)
  rwa [Int.zero_add, first] at sum

/-! ## Accumulated sums -/

def Accumulator.fill (s : Scope) (e : Expr) (rows : List Record) :
    Except GroupingFault Accumulator := do
  rows.foldlM (fun a row => a.add s row) (← start e)

theorem Accumulator.fill_eq_ok {s : Scope} {e : Expr} (aggregate : isAggregate e)
    {rows : List Record}
    (summable : ∀ row ∈ rows, ∀ c, e = .call .sum (some c) → summable (s.resolve c row)) :
    fill s e rows = .ok (after s rows e) := by
  have added (before : List Record) : rows.foldlM (fun a row => a.add s row) (after s before e) =
      .ok (after s (before ++ rows) e) := by
    induction rows generalizing before with
    | nil => rw [List.append_nil]; rfl
    | cons row rows ih =>
        obtain ⟨first, rest⟩ := List.forall_mem_cons.1 summable
        rw [List.foldlM_cons, add_after aggregate before first]
        exact (ih rest _).trans (by rw [List.append_assoc, List.singleton_append])
  rw [fill, start_eq_ok aggregate]
  exact added []

theorem staysInRange_map {α : Type} {value : α → Value} {xs : List α} :
    StaysInRange 0 (xs.map value) ↔
      ∀ before, before <+: xs → InRange (integers (before.map value)).sum := by
  constructor
  · intro stays before le
    have fits := stays (before.map value) (le.map value)
    rwa [Int.zero_add] at fits
  · intro fits before le
    rw [List.prefix_iff_eq_take.1 le, ← List.map_take, Int.zero_add]
    exact fits _ (List.take_prefix _ _)

theorem Accumulator.fill_sum (s : Scope) (c : ColumnRef) {rows : List Record}
    (addends : ∀ row ∈ rows, Addend (s.resolve c row))
    (number : ∃ row ∈ rows, ∃ i, s.resolve c row = .int i) :
    let values : List Value := rows.map (s.resolve c)
    ∃ a, fill s (.call .sum (some c)) rows = .ok a ∧
      ((StaysInRange 0 values ∧ ∃ i : Int64, a.value = .int i ∧ i.toInt = (integers values).sum) ∨
        ¬ StaysInRange 0 values ∧ ∃ x, a.value = .float x) := by
  intro values
  have ok : fill s (.call .sum (some c)) rows = .ok (after s rows (.call .sum (some c))) := by
    refine fill_eq_ok rfl fun row mem c' same => ?_
    cases same
    exact (addends row mem).summable
  have nonempty : integers values ≠ [] := by
    obtain ⟨row, mem, i, found⟩ := number
    have integer : integer? (s.resolve c row) = some i.toInt := by rw [found]; rfl
    exact List.ne_nil_of_mem (List.mem_filterMap.2 ⟨_, List.mem_map_of_mem mem, integer⟩)
  have addends' : ∀ v ∈ values, Addend v := List.forall_mem_map.2 addends
  exact ⟨_, ok, sum_cases addends' nonempty⟩

/-- Integers, NULLs and what is no number can be summed up in every order. With an integer among
them the sum is exact as long as the integers of the rows up to any one sum up within 64 bits, and
a binary64 number otherwise. So it is exact in every order of the rows, and the same in all of them,
just if the positive integers alone and the negative ones alone sum up within 64 bits. -/
theorem Accumulator.sum_integers (s : Scope) (c : ColumnRef) {rows : List Record}
    (addends : ∀ row ∈ rows, Addend (s.resolve c row))
    (number : ∃ row ∈ rows, ∃ i, s.resolve c row = .int i) :
    let values (rows : List Record) : List Value := rows.map (s.resolve c)
    let exact : Int := (integers (values rows)).sum
    (∃ a, fill s (.call .sum (some c)) rows = .ok a ∧
      ((∀ before, before <+: rows → InRange (integers (values before)).sum) →
        ∃ i : Int64, a.value = .int i ∧ i.toInt = exact) ∧
      ((∃ before, before <+: rows ∧ ¬ InRange (integers (values before)).sum) →
        ∃ x, a.value = .float x)) ∧
    ((∀ rows', rows'.Perm rows → ∃ a, fill s (.call .sum (some c)) rows' = .ok a ∧
        ∃ i : Int64, a.value = .int i ∧ i.toInt = exact) ↔
      InRange (gains (values rows)) ∧ InRange (losses (values rows))) := by
  intro values exact
  have same {rows' : List Record} (perm : rows'.Perm rows) :
      (integers (values rows')).Perm (integers (values rows)) := (perm.map _).filterMap _
  have filled {rows' : List Record} (perm : rows'.Perm rows) :
      ∃ a, fill s (.call .sum (some c)) rows' = .ok a ∧
        ((StaysInRange 0 (values rows') ∧ ∃ i : Int64, a.value = .int i ∧ i.toInt = exact) ∨
          ¬ StaysInRange 0 (values rows') ∧ ∃ x, a.value = .float x) := by
    obtain ⟨row, mem, integer⟩ := number
    obtain ⟨a, ok, outcome⟩ := fill_sum s c (fun row mem => addends row (perm.subset mem))
      ⟨row, perm.mem_iff.2 mem, integer⟩
    rw [(same perm).sum_eq] at outcome
    exact ⟨a, ok, outcome⟩
  constructor
  · obtain ⟨a, ok, outcome⟩ := filled (.refl rows)
    rw [staysInRange_map] at outcome
    refine ⟨a, ok, fun stays => ?_, fun ⟨before, le, leaves⟩ => ?_⟩
    · rcases outcome with ⟨-, exactly⟩ | ⟨leaves, -⟩
      · exact exactly
      · exact absurd stays leaves
    · rcases outcome with ⟨stays, -⟩ | ⟨-, float⟩
      · exact absurd (stays before le) leaves
      · exact float
  · constructor
    · intro every
      -- The orders with the positive and with the negative integers first stay within 64 bits.
      have stays (p : Int → Bool) : StaysInRange 0 (values (arranged p (s.resolve c) rows)) := by
        obtain ⟨a, ok, i, integer, -⟩ := every _ (arranged_perm p (s.resolve c) rows)
        obtain ⟨a', ok', ⟨stays, -⟩ | ⟨-, x, float⟩⟩ := filled (arranged_perm p (s.resolve c) rows)
        · exact stays
        · cases ok.symm.trans ok'
          cases integer.symm.trans float
      exact ⟨inRange_of_arranged _ _ (stays _), inRange_of_arranged _ _ (stays _)⟩
    · rintro ⟨above, below⟩ rows' perm
      obtain ⟨a, ok, ⟨-, exactly⟩ | ⟨leaves, -⟩⟩ := filled perm
      · exact ⟨a, ok, exactly⟩
      · refine absurd (staysInRange_of_inRange ?_ ?_) leaves
        · rwa [gains, ((same perm).filter _).sum_eq]
        · rwa [losses, ((same perm).filter _).sum_eq]

theorem Accumulator.sum_integers_greatest :
    let x : ColumnRef := ⟨none, "x"⟩
    let rows : List Record := [.null, .int Int64.maxValue, .float Float.nan, .int (-5), .int 0].map
      fun v => Dict.ofList [("x", v)]
    ∀ rows', rows'.Perm rows → ∃ a, fill .single (.call .sum (some x)) rows' = .ok a ∧
      ∃ i : Int64, a.value = .int i ∧ i.toInt = 9223372036854775802 := by
  intro x rows
  have nan : (Value.float Float.nan).isNaN := by
    rw [Value.isNaN, Float.isNaN_eq_decide_eq_nan, decide_eq_true_iff]
  have addends : ∀ row ∈ rows, Addend (Scope.single.resolve x row) := by
    refine List.forall_mem_map.2 ?_
    simp only [List.forall_mem_cons]
    exact ⟨.inl rfl, .inr (.inr ⟨_, rfl⟩), .inr (.inl nan), .inr (.inr ⟨_, rfl⟩),
      .inr (.inr ⟨_, rfl⟩), List.forall_mem_nil _⟩
  exact (sum_integers .single x addends ⟨_, .tail _ (.head _), _, rfl⟩).2.2 (by decide)

/-- An integer that the sum takes back at once is not taken back after the sum has left 64 bits. -/
theorem Accumulator.sum_integers_order :
    let x : ColumnRef := ⟨none, "x"⟩
    let row (i : Int64) : Record := Dict.ofList [("x", .int i)]
    let rows := [row Int64.maxValue, row 1, row (-1)]
    let rows' := [row Int64.maxValue, row (-1), row 1]
    rows'.Perm rows ∧
      (integers (rows.map (Scope.single.resolve x))).sum = Int64.maxValue.toInt ∧
      (∃ a y, fill .single (.call .sum (some x)) rows = .ok a ∧ a.value = .float y) ∧
      ∃ a, fill .single (.call .sum (some x)) rows' = .ok a ∧ a.value = .int Int64.maxValue :=
  ⟨.cons _ (.swap _ _ _), by decide, ⟨_, _, rfl, rfl⟩, _, rfl, rfl⟩

end SqlStore.Query
