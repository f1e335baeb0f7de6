import Mathlib.Data.List.ProdSigma
import SqlStore.Proofs.Dict
import SqlStore.Query.Relation

/-!
# Joins as relations

The nested loop of a join makes the rows of the product of both sides that satisfy the condition,
in the order of the left side first. After them come the rows of the kept sides that are in no
pair, in their own order.
-/

namespace SqlStore.Query

open Sql (Expr holdsAll)

namespace Relation

/-! ## The loop -/

theorem matchRow_eq (pair : Record → Option Record) (right : List (Record × Bool)) :
    matchRow pair right = ((right.map Prod.fst).filterMap pair,
      right.map fun b => (b.1, b.2 || (pair b.1).isSome)) := by
  induction right with
  | nil => rfl
  | cons b right ih =>
      obtain ⟨b, marked⟩ := b
      rw [matchRow, ih, List.map_cons, List.map_cons, List.filterMap_cons]
      cases pair b with
      | none => simp
      | some row => simp

theorem map_fst_matchRow (pair : Record → Option Record) (right : List (Record × Bool)) :
    (matchRow pair right).2.map Prod.fst = right.map Prod.fst := by
  rw [matchRow_eq, List.map_map]
  rfl

variable (pair : Record → Record → Option Record) (left : List Record)
  (right : List (Record × Bool))

theorem matchRows_made : (matchRows pair left right).made =
    left.flatMap fun a => (right.map Prod.fst).filterMap (pair a) := by
  induction left generalizing right with
  | nil => rfl
  | cons a left ih =>
      simp only [matchRows, List.flatMap_cons]
      rw [ih, map_fst_matchRow, matchRow_eq]

theorem matchRows_unmatched : (matchRows pair left right).unmatched =
    left.filter fun a => (right.map Prod.fst).all fun b => (pair a b).isNone := by
  induction left generalizing right with
  | nil => rfl
  | cons a left ih =>
      have empty : ((right.map Prod.fst).filterMap (pair a)).isEmpty =
          (right.map Prod.fst).all fun b => (pair a b).isNone := by
        rw [Bool.eq_iff_iff, List.isEmpty_iff, List.filterMap_eq_nil_iff, List.all_eq_true]
        simp only [Option.isNone_iff_eq_none]
      simp only [matchRows, List.filter_cons]
      rw [ih, map_fst_matchRow, matchRow_eq, empty]

theorem matchRows_right : (matchRows pair left right).right =
    right.map fun b => (b.1, b.2 || left.any fun a => (pair a b.1).isSome) := by
  induction left generalizing right with
  | nil =>
      simp only [matchRows, List.any_nil, Bool.or_false]
      exact (List.map_id right).symm
  | cons a left ih =>
      simp only [matchRows, List.any_cons]
      rw [ih, matchRow_eq, List.map_map]
      refine List.map_congr_left fun b _ => ?_
      rw [Function.comp_apply, Bool.or_assoc]

end Relation

/-! ## Columns -/

theorem addColumns_eq (columns more : List String) :
    addColumns columns more =
      columns ++ (more.filter fun c => !columns.contains c).eraseDups := by
  induction more generalizing columns with
  | nil => simp [addColumns]
  | cons c more ih =>
      have step : addColumns columns (c :: more) =
          addColumns (if columns.contains c then columns else columns ++ [c]) more := rfl
      rw [step, List.filter_cons]
      by_cases there : columns.contains c
      · rw [if_pos there, ih, there, Bool.not_true, if_neg Bool.false_ne_true]
      · -- The new column is left out of what follows, as a repetition.
        have later : more.filter (fun d => !(columns ++ [c]).contains d) =
            (more.filter fun d => !columns.contains d).filter fun d => !d == c := by
          rw [List.filter_filter]
          refine List.filter_congr fun d _ => ?_
          by_cases same : d = c <;> simp [same]
        rw [if_neg there, ih, later, if_pos (by simpa using there), List.eraseDups_cons]
        simp

theorem eraseDups_of_nodup {columns : List String} (distinct : columns.Nodup) :
    columns.eraseDups = columns := by
  induction columns with
  | nil => rfl
  | cons c columns ih =>
      obtain ⟨new, rest⟩ := List.nodup_cons.1 distinct
      have others : columns.filter (fun d => !d == c) = columns := by
        apply List.filter_eq_self.2
        intro d mem
        have apart : d ≠ c := fun same => new (same ▸ mem)
        simpa using apart
      rw [List.eraseDups_cons, others, ih rest]

theorem addColumns_nil (columns : List String) : addColumns [] columns = columns.eraseDups := by
  have all : columns.filter (fun c => !([] : List String).contains c) = columns :=
    List.filter_eq_self.2 fun _ _ => rfl
  rw [addColumns_eq, all, List.nil_append]

theorem addColumns_of_nodup {columns : List String} (distinct : columns.Nodup) :
    addColumns [] columns = columns := by
  rw [addColumns_nil, eraseDups_of_nodup distinct]

theorem find?_addColumns (holds : String → Bool) (columns more : List String) :
    (addColumns columns more).find? holds = (columns ++ more).find? holds := by
  induction more generalizing columns with
  | nil => rw [List.append_nil]; rfl
  | cons k more ih =>
      have step : addColumns columns (k :: more) =
          addColumns (if columns.contains k then columns else columns ++ [k]) more := rfl
      rw [step, ih]
      split
      · -- A column that is there already is never the first to satisfy anything.
        rename_i there
        rw [List.find?_append, List.find?_append, List.find?_cons]
        cases found : columns.find? holds with
        | some other => rfl
        | none =>
            have not := List.find?_eq_none.1 found k (List.contains_iff_mem.1 there)
            rw [Bool.not_eq_true] at not
            rw [not]
      · rw [List.append_assoc, List.singleton_append]

theorem addColumns_append (columns more more' : List String) :
    addColumns columns (more ++ more') = addColumns (addColumns columns more) more' :=
  List.foldl_append

/-! ## The relational join -/

namespace Relation

/-- The rows of the product of two sides that satisfy a condition, in the order of the first. -/
def paired (holds : Record → Record → Bool) (left right : List Record) : List Record :=
  ((left ×ˢ right).filter fun p => holds p.1 p.2).map fun p => p.1.union p.2

/-- The rows of a side that satisfy a condition with no row of the other. -/
def unpaired (holds : Record → Record → Bool) (side other : List Record) : List Record :=
  side.filter fun a => other.all fun b => !holds a b

theorem flatMap_filterMap_eq_paired (holds : Record → Record → Bool) (left right : List Record) :
    (left.flatMap fun a => right.filterMap fun b =>
      if holds a b then some (a.union b) else none) = paired holds left right := by
  induction left with
  | nil => rfl
  | cons a left ih =>
      have first : (right.filterMap fun b => if holds a b then some (a.union b) else none) =
          ((right.map (Prod.mk a)).filter fun p => holds p.1 p.2).map fun p => p.1.union p.2 := by
        rw [List.filter_map, List.map_map, ← List.filterMap_eq_map, List.filterMap_filter]
        rfl
      rw [List.flatMap_cons, ih, first, paired, paired, List.product_cons, List.filter_append,
        List.map_append]

theorem count_unpaired (holds : Record → Record → Bool) (side other : List Record) (a : Record) :
    (unpaired holds side other).count a =
      if ∃ b ∈ other, holds a b then 0 else side.count a := by
  split
  · rename_i matched
    rw [List.count_eq_zero, unpaired, List.mem_filter]
    simp only [List.all_eq_true, Bool.not_eq_true', not_and]
    intro _ none
    obtain ⟨b, mem, holds⟩ := matched
    simp [none b mem] at holds
  · rename_i alone
    apply List.count_filter
    simpa using alone

theorem join_rows (m : OrMode) (on? : Option Expr) (keepLeft keepRight : Bool) (l r : Relation) :
    let holds (a b : Record) : Bool :=
      holdsAll m ⟨addColumns l.columns r.columns, true⟩ on? (a.union b)
    (join m on? keepLeft keepRight l r).rows = paired holds l.rows r.rows ++
      (if keepLeft then unpaired holds l.rows r.rows else []) ++
      (if keepRight then unpaired (fun b a => holds a b) r.rows l.rows else []) := by
  intro holds
  have sides : (r.rows.map fun b => (b, false)).map Prod.fst = r.rows := by
    rw [List.map_map]
    exact List.map_id r.rows
  have isNone (a b : Record) :
      (pair? m ⟨addColumns l.columns r.columns, true⟩ on? a b).isNone = !holds a b := by
    simp only [pair?, holds]
    split <;> simp_all
  have isSome (a b : Record) :
      (pair? m ⟨addColumns l.columns r.columns, true⟩ on? a b).isSome = holds a b := by
    rw [← Option.not_isNone, isNone, Bool.not_not]
  simp only [join]
  rw [matchRows_made, matchRows_unmatched, matchRows_right, sides]
  simp only [isNone, isSome]
  have right : (((r.rows.map fun b => (b, false)).map fun b =>
      (b.1, b.2 || l.rows.any fun a => holds a b.1)).filter fun b => !b.2).map (·.1) =
        unpaired (fun b a => holds a b) r.rows l.rows := by
    rw [List.map_map, List.filter_map, List.map_map]
    simp [unpaired, Function.comp_def, List.not_any_eq_all_not]
  rw [right, ← flatMap_filterMap_eq_paired]
  rfl

/-- A join is what relations say it is. Its columns are those of the left side and then the further
ones of the right. Its rows are the pairs that satisfy the condition, in the order of the left side
first, and then the rows without a partner of each side that is kept. So a full join has the rows
of the inner join and all rows without a partner, each as often as it stands in its side. -/
theorem join_relational (m : OrMode) (on? : Option Expr) (keepLeft keepRight : Bool)
    (l r : Relation) :
    let joined := join m on? keepLeft keepRight l r
    let holds (a b : Record) : Bool := holdsAll m ⟨joined.columns, true⟩ on? (a.union b)
    let left := unpaired holds l.rows r.rows
    let right := unpaired (fun b a => holds a b) r.rows l.rows
    joined.columns = l.columns ++ (r.columns.filter fun c => !l.columns.contains c).eraseDups ∧
    joined.rows = paired holds l.rows r.rows ++ (if keepLeft then left else []) ++
      (if keepRight then right else []) ∧
    (∀ (a b : Record) (key : String), (a.union b).get? key = (b.get? key).or (a.get? key)) ∧
    (join m on? true true l r).rows = (join m on? false false l r).rows ++ left ++ right ∧
    (∀ a, left.count a = if ∃ b ∈ r.rows, holds a b then 0 else l.rows.count a) ∧
    ∀ b, right.count b = if ∃ a ∈ l.rows, holds a b then 0 else r.rows.count b := by
  intro joined holds left right
  have inner : (join m on? false false l r).rows = paired holds l.rows r.rows := by
    rw [join_rows]
    simp only [Bool.false_eq_true, if_false, List.append_nil]
    rfl
  refine ⟨addColumns_eq l.columns r.columns, join_rows m on? keepLeft keepRight l r,
    Dict.get?_union, ?_, count_unpaired _ _ _, count_unpaired _ _ _⟩
  rw [inner, join_rows]
  rfl

end Relation

end SqlStore.Query
