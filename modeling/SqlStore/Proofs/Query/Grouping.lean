import Mathlib.Data.List.Forall2
import SqlStore.Proofs.Except
import SqlStore.Proofs.Query.Join
import SqlStore.Proofs.Value.Groups
import SqlStore.Error

/-!
# Groups as classes

Grouping splits the rows into the classes of an equivalence, in the order of their first rows. An
accumulator holds what the rows of its own class come to, although all of them are filled in one
pass over the rows.
-/

namespace SqlStore.Query

open Sql (ColumnRef Expr SelectItem)

/-! ## Classes -/

/-- The classes of a list: the first element with all elements that are the same as it, and then
the classes of the others. -/
def classesBy {α : Type} (same : α → α → Bool) : List α → List (List α)
  | [] => []
  | x :: xs => (x :: xs.filter (same x)) :: classesBy same (xs.filter fun y => !same x y)
termination_by xs => xs.length
decreasing_by
  have shorter := List.length_filter_le (fun y => !same x y.1) xs.attach
  rw [List.length_attach] at shorter
  simpa using Nat.lt_succ_of_le shorter

section Classes

variable {α : Type} {same : α → α → Bool}

theorem filter_induction {motive : List α → Prop} (nil : motive [])
    (cons : ∀ x xs, (∀ p, motive (xs.filter p)) → motive (x :: xs)) (xs : List α) : motive xs := by
  induction size : xs.length using Nat.strongRecOn generalizing xs with
  | ind n ih =>
      subst size
      cases xs with
      | nil => exact nil
      | cons x xs =>
          exact cons x xs fun p => ih _ (Nat.lt_succ_of_le (List.length_filter_le p xs)) _ rfl

theorem classesBy_flatten_perm (xs : List α) : (classesBy same xs).flatten.Perm xs := by
  induction xs using filter_induction with
  | nil => simp [classesBy]
  | cons x xs ih =>
      rw [classesBy, List.flatten_cons, List.cons_append]
      apply List.Perm.cons
      exact ((ih _).append_left _).trans (List.filter_append_perm (same x) xs)

theorem sum_length_classesBy (xs : List α) :
    ((classesBy same xs).map List.length).sum = xs.length := by
  rw [← List.length_flatten]
  exact (classesBy_flatten_perm xs).length_eq

variable (equivalence : Equivalence fun x y => same x y = true)
include equivalence

theorem mem_classesBy {xs c : List α} (mem : c ∈ classesBy same xs) :
    ∃ x ∈ xs, c = xs.filter (same x) := by
  induction xs using filter_induction with
  | nil => simp [classesBy] at mem
  | cons x xs ih =>
      rw [classesBy] at mem
      rcases List.mem_cons.1 mem with rfl | later
      · refine ⟨x, List.mem_cons_self, ?_⟩
        rw [List.filter_cons, if_pos (equivalence.refl x)]
      · obtain ⟨y, memY, rfl⟩ := ih _ later
        obtain ⟨memY, other⟩ := List.mem_filter.1 memY
        have apart : ¬ same y x = true := by
          intro related
          simp [equivalence.symm related] at other
        refine ⟨y, List.mem_cons_of_mem x memY, ?_⟩
        rw [List.filter_cons, if_neg apart, List.filter_filter]
        refine List.filter_congr fun z _ => ?_
        -- What is the same as `y` is not the same as `x`.
        by_cases near : same y z = true
        · have far : same x z = false := by
            by_contra related
            rw [Bool.not_eq_false] at related
            exact apart (equivalence.trans near (equivalence.symm related))
          rw [near, far]
          rfl
        · rw [Bool.not_eq_true] at near
          rw [near, Bool.false_and]

theorem pairwise_classesBy (xs : List α) :
    (classesBy same xs).Pairwise fun c d => ∀ x ∈ c, ∀ y ∈ d, same x y = false := by
  induction xs using filter_induction with
  | nil => simp [classesBy]
  | cons x xs ih =>
      rw [classesBy]
      refine List.pairwise_cons.2 ⟨fun d later y memY z memZ => ?_, ih _⟩
      have first : same x y = true := by
        rcases List.mem_cons.1 memY with rfl | memY
        · exact equivalence.refl y
        · exact (List.mem_filter.1 memY).2
      have other : same x z = false := by
        have mem := (classesBy_flatten_perm _).mem_iff.1 (List.mem_flatten_of_mem later memZ)
        simpa using (List.mem_filter.1 mem).2
      by_contra related
      rw [Bool.not_eq_false] at related
      rw [equivalence.trans first related] at other
      cases other

end Classes

theorem sameKey_iff {a b : List Value} :
    sameKey a b = true ↔ List.Forall₂ (fun v w => v.sameGroup w = true) a b := by
  induction a generalizing b with
  | nil => cases b <;> simp [sameKey]
  | cons v a ih => cases b <;> simp [sameKey, ih]

theorem sameKey_equivalence : Equivalence fun a b => sameKey a b = true where
  refl a := sameKey_iff.2 (List.forall₂_same.2 fun v _ => Value.sameGroup_equivalence.refl v)
  symm := by
    intro a b related
    exact sameKey_iff.2 ((sameKey_iff.1 related).flip.imp
      fun _ _ related => Value.sameGroup_equivalence.symm related)
  trans := by
    intro a b c first second
    refine sameKey_iff.2 ?_
    have first := sameKey_iff.1 first
    have second := sameKey_iff.1 second
    clear * - first second
    induction first generalizing c with
    | nil =>
        cases second
        exact .nil
    | cons near _ ih =>
        cases second with
        | cons far later =>
            exact .cons (Value.sameGroup_equivalence.trans near far) (ih later)

/-! ## Accumulators -/

def sum (vs : List Value) : Value :=
  vs.foldl addToSum .null

/-- The value of an item for the rows of a group: their number, a sum over them, or the value of
the last. -/
def groupValue (s : Scope) (rows : List Record) : Expr → Value
  | .call .count _ => .int (Int64.ofNat rows.length)
  | .call .sum (some c) => sum (rows.map (s.resolve c))
  | .column c => (rows.getLast?.map (s.resolve c)).getD .null
  | _ => .null

theorem sum_eq_null {vs : List Value} (absent : ∀ v ∈ vs, v = .null ∨ v.isNaN) :
    sum vs = .null := by
  rw [sum]
  induction vs with
  | nil => rfl
  | cons v vs ih =>
      obtain ⟨first, rest⟩ := List.forall_mem_cons.1 absent
      have nothing : addToSum .null v = .null := by
        rcases first with rfl | nan
        · rfl
        · exact if_pos nan
      rw [List.foldl_cons, nothing]
      exact ih rest

def Summable (s : Scope) (items : List SelectItem) (row : Record) : Prop :=
  ∀ item ∈ items, ∀ c, item.1 = .call .sum (some c) → summable (s.resolve c row)

def Accumulator.after (s : Scope) (rows : List Record) (e : Expr) : Accumulator :=
  match e with
  | .call .sum (some c) => .sum c (groupValue s rows e)
  | .column c => .last c (groupValue s rows e)
  | _ => .count (Int64.ofNat rows.length)

namespace Accumulator

variable {s : Scope} {e : Expr}

theorem start_eq_ok (aggregate : isAggregate e) : start e = .ok (after s [] e) := by
  unfold isAggregate at aggregate
  split at aggregate
  · rfl
  · rfl
  · rfl
  · cases aggregate

theorem value_after (aggregate : isAggregate e) (rows : List Record) :
    (after s rows e).value = groupValue s rows e := by
  unfold isAggregate at aggregate
  split at aggregate
  · rfl
  · rfl
  · rfl
  · cases aggregate

theorem add_after (aggregate : isAggregate e) (rows : List Record) {row : Record}
    (summable : ∀ c, e = .call .sum (some c) → summable (s.resolve c row)) :
    (after s rows e).add s row = .ok (after s (rows ++ [row]) e) := by
  unfold isAggregate at aggregate
  split at aggregate
  · simp [after, add, Int64.ofNat_add]
  · simp [after, add, groupValue, Query.sum, summable _ rfl]
  · simp [after, add, groupValue]
  · cases aggregate

theorem add_after_error {c : ColumnRef} {row : Record} (refused : summable (s.resolve c row) = false)
    (rows : List Record) : (after s rows (.call .sum (some c))).add s row =
      .error (.notSummable (s.resolve c row) c) := by
  simp [after, add, refused]

theorem add_fails (row : Record) (a : Accumulator) :
    FailsWith (fun fault => ∃ v c, fault = .notSummable v c) (a.add s row) := by
  cases a with
  | count n => exact .ok _
  | last c v => exact .ok _
  | sum c total =>
      simp only [add]
      split
      · exact .ok _
      · exact .error ⟨_, c, rfl⟩

end Accumulator

/-! ## The loop over the rows -/

def Group.after (s : Scope) (items : List SelectItem) (g : List Value × List Record) : Group :=
  ⟨g.1, items.map fun item => .after s g.2 item.1⟩

section Loop

variable {s : Scope} {items : List SelectItem}
  (aggregates : ∀ item ∈ items, isAggregate item.1)
include aggregates

theorem Group.start_eq_ok (key : List Value) :
    Group.start items key = .ok (.after s items (key, [])) := by
  have started : (items.mapM fun item => Accumulator.start item.1) =
      .ok (items.map fun item => .after s [] item.1) := by
    rw [mapM_eq_ok, List.map_map]
    exact List.map_congr_left fun item mem => Accumulator.start_eq_ok (aggregates item mem)
  rw [Group.start, started]
  rfl

theorem Group.add_after (g : List Value × List Record) {row : Record}
    (summable : Summable s items row) :
    (Group.after s items g).add s row = .ok (.after s items (g.1, g.2 ++ [row])) := by
  have added : (items.map fun item => Accumulator.after s g.2 item.1).mapM (Accumulator.add s row) =
      .ok (items.map fun item => .after s (g.2 ++ [row]) item.1) := by
    rw [mapM_eq_ok, List.map_map, List.map_map]
    refine List.map_congr_left fun item mem => ?_
    exact Accumulator.add_after (aggregates item mem) g.2 (summable item mem)
  rw [Group.add, Group.after, added]
  rfl

omit aggregates in
theorem Group.add_after_error (g : List Value × List Record) {row : Record}
    (refused : ¬ Summable s items row) :
    ∃ v c, (Group.after s items g).add s row = .error (.notSummable v c) := by
  simp only [Summable, not_forall, Bool.not_eq_true] at refused
  obtain ⟨item, mem, c, sums, refused⟩ := refused
  rw [Group.add, Group.after]
  cases added : (items.map fun item => Accumulator.after s g.2 item.1).mapM (Accumulator.add s row) with
  | error fault =>
      obtain ⟨v, c, rfl⟩ := FailsWith.mapM (fun a _ => a.add_fails (s := s) row) fault added
      exact ⟨v, c, rfl⟩
  | ok accumulators =>
      -- The item whose sum the row can not enter has failed.
      have all := mapM_eq_ok.1 added
      have there : (Accumulator.after s g.2 item.1).add s row ∈ accumulators.map .ok := by
        rw [← all]
        exact List.mem_map_of_mem (List.mem_map.2 ⟨item, mem, rfl⟩)
      obtain ⟨a, -, same⟩ := List.mem_map.1 there
      rw [sums, Accumulator.add_after_error refused] at same
      cases same

def addToClasses (key : List Value) (row : Record) :
    List (List Value × List Record) → List (List Value × List Record)
  | [] => [(key, [row])]
  | g :: gs =>
    if sameKey g.1 key then (g.1, g.2 ++ [row]) :: gs else g :: addToClasses key row gs

theorem addToGroups_after (key : List Value) {row : Record} (summable : Summable s items row)
    (gs : List (List Value × List Record)) :
    addToGroups s items key row (gs.map (Group.after s items)) =
      .ok ((addToClasses key row gs).map (Group.after s items)) := by
  induction gs with
  | nil =>
      rw [List.map_nil, addToGroups, Group.start_eq_ok aggregates key]
      exact bind_eq_ok.2 ⟨_, rfl, bind_eq_ok.2 ⟨_, Group.add_after aggregates _ summable, rfl⟩⟩
  | cons g gs ih =>
      have same : (Group.after s items g).key = g.1 := rfl
      rw [List.map_cons, addToGroups, addToClasses, same]
      split
      · exact bind_eq_ok.2 ⟨_, Group.add_after aggregates g summable, rfl⟩
      · exact bind_eq_ok.2 ⟨_, ih, rfl⟩

theorem addToGroups_error (key : List Value) {row : Record} (refused : ¬ Summable s items row)
    (gs : List (List Value × List Record)) :
    ∃ v c, addToGroups s items key row (gs.map (Group.after s items)) =
      .error (.notSummable v c) := by
  induction gs with
  | nil =>
      obtain ⟨v, c, failed⟩ := Group.add_after_error (key, []) refused
      refine ⟨v, c, ?_⟩
      rw [List.map_nil, addToGroups, Group.start_eq_ok aggregates key]
      exact bind_eq_error.2 (.inr ⟨_, rfl, bind_eq_error.2 (.inl failed)⟩)
  | cons g gs ih =>
      rw [List.map_cons, addToGroups]
      split
      · obtain ⟨v, c, failed⟩ := Group.add_after_error g refused
        exact ⟨v, c, bind_eq_error.2 (.inl failed)⟩
      · obtain ⟨v, c, failed⟩ := ih
        exact ⟨v, c, bind_eq_error.2 (.inl failed)⟩

variable (key : Record → List Value)

theorem foldlM_addToGroups {rows : List Record} (summable : ∀ row ∈ rows, Summable s items row)
    (gs : List (List Value × List Record)) :
    rows.foldlM (fun gs row => addToGroups s items (key row) row gs)
        (gs.map (Group.after s items)) =
      .ok ((rows.foldl (fun gs row => addToClasses (key row) row gs) gs).map
        (Group.after s items)) := by
  induction rows generalizing gs with
  | nil => rfl
  | cons row rows ih =>
      obtain ⟨first, rest⟩ := List.forall_mem_cons.1 summable
      rw [List.foldlM_cons, addToGroups_after aggregates (key row) first]
      exact ih rest _

theorem foldlM_addToGroups_error {rows : List Record} {row : Record} (mem : row ∈ rows)
    (refused : ¬ Summable s items row) (gs : List (List Value × List Record)) :
    ∃ v c, rows.foldlM (fun gs row => addToGroups s items (key row) row gs)
      (gs.map (Group.after s items)) = .error (.notSummable v c) := by
  induction rows generalizing gs with
  | nil => cases mem
  | cons first rows ih =>
      rw [List.foldlM_cons]
      by_cases summable : Summable s items first
      · rw [addToGroups_after aggregates (key first) summable]
        rcases List.mem_cons.1 mem with rfl | mem
        · exact absurd summable refused
        · exact ih mem _
      · obtain ⟨v, c, failed⟩ := addToGroups_error aggregates (key first) summable gs
        exact ⟨v, c, bind_eq_error.2 (.inl failed)⟩

end Loop

/-! ## Classes of the loop -/

def labelled (key : Record → List Value) (c : List Record) : List Value × List Record :=
  ((c.head?.map key).getD [], c)

theorem labelled_classesBy_concat (key : Record → List Value) (rows : List Record) (row : Record) :
    (classesBy (fun a b => sameKey (key a) (key b)) (rows ++ [row])).map (labelled key) =
      addToClasses (key row) row
        ((classesBy (fun a b => sameKey (key a) (key b)) rows).map (labelled key)) := by
  induction rows using filter_induction with
  | nil => simp [classesBy, labelled, addToClasses]
  | cons first rows ih =>
      rw [List.cons_append, classesBy, classesBy, List.map_cons, List.map_cons, List.filter_append,
        List.filter_append, addToClasses]
      by_cases same : sameKey (key first) (key row) = true
      · simp [labelled, same]
      · rw [Bool.not_eq_true] at same
        have later := ih fun other => !sameKey (key first) (key other)
        simp [labelled, same] at later ⊢
        exact later

theorem foldl_addToClasses (key : Record → List Value) (before rows : List Record) :
    rows.foldl (fun gs row => addToClasses (key row) row gs)
        ((classesBy (fun a b => sameKey (key a) (key b)) before).map (labelled key)) =
      (classesBy (fun a b => sameKey (key a) (key b)) (before ++ rows)).map (labelled key) := by
  induction rows generalizing before with
  | nil => rw [List.foldl_nil, List.append_nil]
  | cons row rows ih =>
      rw [List.foldl_cons, ← labelled_classesBy_concat, ih, List.append_assoc, List.singleton_append]

theorem foldl_addToClasses_nil (before rows : List Record) :
    rows.foldl (fun gs row => addToClasses [] row gs) [([], before)] = [([], before ++ rows)] := by
  induction rows generalizing before with
  | nil => simp
  | cons row rows ih =>
      rw [List.foldl_cons]
      exact (ih (before ++ [row])).trans (by simp)

def classes (s : Scope) (groupBy : List ColumnRef) (rows : List Record) : List (List Record) :=
  let key (row : Record) := groupBy.map fun c => s.resolve c row
  if groupBy.isEmpty then [rows] else classesBy (fun a b => sameKey (key a) (key b)) rows

section Groups

variable {s : Scope} {items : List SelectItem}
  (aggregates : ∀ item ∈ items, isAggregate item.1) (groupBy : List ColumnRef)
include aggregates

theorem mapM_start : (if groupBy.isEmpty then [[]] else []).mapM (Group.start items) =
    .ok ((if groupBy.isEmpty then [([], [])] else []).map (Group.after s items)) := by
  rw [mapM_eq_ok]
  split
  · exact congrArg (fun g => [g]) (Group.start_eq_ok aggregates [])
  · rfl

theorem groups_eq_ok {rows : List Record} (summable : ∀ row ∈ rows, Summable s items row) :
    ∃ gs : List (List Value × List Record), gs.map Prod.snd = classes s groupBy rows ∧
      groups s items groupBy rows = .ok (gs.map (Group.after s items)) := by
  let key (row : Record) := groupBy.map fun c => s.resolve c row
  have run := foldlM_addToGroups aggregates key summable (if groupBy.isEmpty then [([], [])] else [])
  refine ⟨_, ?_, bind_eq_ok.2 ⟨_, mapM_start aggregates groupBy, run⟩⟩
  rw [classes]
  by_cases none : groupBy = []
  · subst none
    exact congrArg (List.map Prod.snd) (foldl_addToClasses_nil [] rows)
  · rw [if_neg (by simpa using none), if_neg (by simpa using none)]
    have classes := foldl_addToClasses key [] rows
    rw [classesBy, List.map_nil, List.nil_append] at classes
    rw [classes, List.map_map]
    exact List.map_id _

theorem groups_error {rows : List Record} {row : Record} (mem : row ∈ rows)
    (refused : ¬ Summable s items row) :
    ∃ v c, groups s items groupBy rows = .error (.notSummable v c) := by
  let key (row : Record) := groupBy.map fun c => s.resolve c row
  obtain ⟨v, c, failed⟩ := foldlM_addToGroups_error aggregates key mem refused
    (if groupBy.isEmpty then [([], [])] else [])
  exact ⟨v, c, bind_eq_error.2 (.inr ⟨_, mapM_start aggregates groupBy, failed⟩)⟩

end Groups

/-! ## Rows of the output -/

theorem get?_row_after {s : Scope} {items : List SelectItem}
    (aggregates : ∀ item ∈ items, isAggregate item.1) (distinct : (items.map outputName).Nodup)
    (g : List Value × List Record) {item : SelectItem} (mem : item ∈ items) :
    (Group.row items (.after s items g)).get? (outputName item) =
      some (groupValue s g.2 item.1) := by
  have entries : (items.map outputName).zip
      ((Group.after s items g).accumulators.map Accumulator.value) =
        items.map fun item => (outputName item, (Accumulator.after s g.2 item.1).value) := by
    rw [Group.after, List.map_map, List.zip_map']
    rfl
  rw [Group.row, entries, ← Accumulator.value_after (aggregates item mem)]
  refine Dict.get?_ofList_of_mem ?_ (List.mem_map.2 ⟨item, mem, rfl⟩)
  rw [List.map_map]
  exact distinct

theorem get?_row_of_not_mem (items : List SelectItem) (g : Group) {name : String}
    (absent : name ∉ items.map outputName) : (g.row items).get? name = none := by
  refine Dict.get?_ofList_of_not_mem fun mem => absent ?_
  obtain ⟨e, paired, rfl⟩ := List.mem_map.1 mem
  exact (List.of_mem_zip paired).1

theorem summable_eq_false_iff {v : Value} : summable v = false ↔
    v ≠ .null ∧ (∀ i, v ≠ .int i) ∧ ∀ x, v ≠ .float x := by
  cases v <;> simp [summable]

/-! ## Groups of a relation -/

/-- The classes of rows with the same key, and all rows together where nothing is grouped by. -/
structure Classes (groupBy : List ColumnRef) (same : Record → Record → Bool) (rows : List Record)
    (classes : List (List Record)) : Prop where
  whole : groupBy = [] → classes = [rows]
  full : groupBy ≠ [] → ∀ c ∈ classes, ∃ row ∈ rows, c = rows.filter (same row)
  apart : classes.Pairwise fun c d => ∀ a ∈ c, ∀ b ∈ d, same a b = false
  all : classes.flatten.Perm rows
  sizes : (classes.map List.length).sum = rows.length

theorem classes_partition (s : Scope) (groupBy : List ColumnRef) (rows : List Record) :
    Classes groupBy (fun a b => sameKey (groupBy.map fun c => s.resolve c a)
      (groupBy.map fun c => s.resolve c b)) rows (classes s groupBy rows) := by
  have equivalence : Equivalence fun a b => sameKey (groupBy.map fun c => s.resolve c a)
      (groupBy.map fun c => s.resolve c b) = true :=
    ⟨fun _ => sameKey_equivalence.refl _, fun related => sameKey_equivalence.symm related,
      fun first second => sameKey_equivalence.trans first second⟩
  by_cases none : groupBy = []
  · subst none
    exact ⟨fun _ => rfl, fun some => absurd rfl some, List.pairwise_singleton _ _,
      by simp [classes], by simp [classes]⟩
  · rw [classes, if_neg (by simpa using none)]
    exact ⟨fun empty => absurd empty none, fun _ c mem => mem_classesBy equivalence mem,
      pairwise_classesBy equivalence rows, classesBy_flatten_perm rows, sum_length_classesBy rows⟩

theorem Relation.aggregate_eq_ok {r : Relation} {items : List SelectItem}
    {groupBy : List ColumnRef} {qualified : Bool} {out : Relation} :
    r.aggregate items groupBy qualified = .ok out ↔
      ∃ gs, groups ⟨r.columns, qualified⟩ items groupBy r.rows = .ok gs ∧
        out = ⟨addColumns [] (items.map outputName), gs.map (Group.row items)⟩ := by
  constructor
  · intro ok
    obtain ⟨gs, grouped, made⟩ := bind_eq_ok.1 ok
    exact ⟨gs, grouped, (pure_eq_ok.1 made).symm⟩
  · rintro ⟨gs, grouped, rfl⟩
    exact bind_eq_ok.2 ⟨gs, grouped, rfl⟩

theorem not_summable_iff {s : Scope} {items : List SelectItem} {row : Record} :
    ¬ Summable s items row ↔ ∃ item ∈ items, ∃ c, item.1 = .call .sum (some c) ∧
      s.resolve c row ≠ .null ∧ (∀ i, s.resolve c row ≠ .int i) ∧
        ∀ x, s.resolve c row ≠ .float x := by
  simp only [Summable, not_forall, Bool.not_eq_true, summable_eq_false_iff, exists_prop]

theorem Relation.aggregate_error_iff {r : Relation} {items : List SelectItem}
    (aggregates : ∀ item ∈ items, isAggregate item.1) {groupBy : List ColumnRef} {qualified : Bool} :
    (∃ fault, r.aggregate items groupBy qualified = .error fault) ↔
      ∃ row ∈ r.rows, ¬ Summable ⟨r.columns, qualified⟩ items row := by
  constructor
  · rintro ⟨fault, failed⟩
    by_contra none
    simp only [not_exists, not_and, Classical.not_not] at none
    obtain ⟨gs, -, grouped⟩ := groups_eq_ok aggregates groupBy none
    rw [aggregate_eq_ok.2 ⟨_, grouped, rfl⟩] at failed
    cases failed
  · rintro ⟨row, mem, refused⟩
    obtain ⟨v, c, failed⟩ := groups_error aggregates groupBy mem refused
    exact ⟨_, bind_eq_error.2 (.inl failed)⟩

theorem Relation.summable_of_aggregate {r out : Relation} {items : List SelectItem}
    (aggregates : ∀ item ∈ items, isAggregate item.1) {groupBy : List ColumnRef} {qualified : Bool}
    (ok : r.aggregate items groupBy qualified = .ok out) :
    ∀ row ∈ r.rows, Summable ⟨r.columns, qualified⟩ items row := by
  intro row mem
  by_contra refused
  have fails : ∃ fault, r.aggregate items groupBy qualified = .error fault :=
    (aggregate_error_iff aggregates).2 ⟨row, mem, refused⟩
  obtain ⟨fault, failed⟩ := fails
  rw [ok] at failed
  cases failed

theorem Relation.aggregate_table {r out : Relation} {items : List SelectItem}
    (aggregates : ∀ item ∈ items, isAggregate item.1) (distinct : (items.map outputName).Nodup)
    {groupBy : List ColumnRef} {qualified : Bool}
    (ok : r.aggregate items groupBy qualified = .ok out) :
    out.table = (classes ⟨r.columns, qualified⟩ groupBy r.rows).map fun c =>
      items.map fun item => groupValue ⟨r.columns, qualified⟩ c item.1 := by
  obtain ⟨gs, rows, grouped⟩ :=
    groups_eq_ok aggregates groupBy (summable_of_aggregate aggregates ok)
  obtain ⟨gs', grouped', rfl⟩ := aggregate_eq_ok.1 ok
  obtain rfl := Except.ok.inj (grouped.symm.trans grouped')
  rw [table, addColumns_of_nodup distinct, ← rows]
  simp only [List.map_map]
  refine List.map_congr_left fun g _ => List.map_congr_left fun item mem => ?_
  rw [Function.comp_apply, Function.comp_apply, get?_row_after aggregates distinct g mem]
  rfl

theorem Relation.fault_of_aggregate {r : Relation} {items : List SelectItem}
    (aggregates : ∀ item ∈ items, isAggregate item.1) {groupBy : List ColumnRef} {qualified : Bool}
    {fault : GroupingFault} (failed : r.aggregate items groupBy qualified = .error fault) :
    ∃ v c, fault = .notSummable v c := by
  obtain ⟨row, mem, refused⟩ := (aggregate_error_iff aggregates).1 ⟨fault, failed⟩
  obtain ⟨v, c, failed'⟩ := groups_error aggregates groupBy mem refused
  rw [Relation.aggregate, failed'] at failed
  cases failed
  exact ⟨v, c, rfl⟩

/-- Grouping is a partition. It fails, as a mismatch of types, if there is a value to be summed up
that is neither NULL nor a number, and for no other reason. Otherwise it makes one row for each
class of rows with the same key, in the order of their first rows: with the size of the class, sums
over its rows alone, and the values of its last row. The classes have all rows of one key each and
share none, so that their sizes add up to the number of rows. -/
theorem Relation.aggregate_partition (r : Relation) (items : List SelectItem)
    (groupBy : List ColumnRef) (qualified : Bool) (aggregates : ∀ item ∈ items, isAggregate item.1)
    (distinct : (items.map outputName).Nodup) :
    let s : Scope := ⟨r.columns, qualified⟩
    let same (a b : Record) : Bool :=
      sameKey (groupBy.map fun c => s.resolve c a) (groupBy.map fun c => s.resolve c b)
    let classes := if groupBy.isEmpty then [r.rows] else classesBy same r.rows
    ((∃ fault, r.aggregate items groupBy qualified = .error fault) ↔
      ∃ row ∈ r.rows, ∃ item ∈ items, ∃ c, item.1 = .call .sum (some c) ∧
        s.resolve c row ≠ .null ∧ (∀ i, s.resolve c row ≠ .int i) ∧
          ∀ x, s.resolve c row ≠ .float x) ∧
    (∀ fault, r.aggregate items groupBy qualified = .error fault →
      (Error.notGrouped fault).kind = .typeMismatch) ∧
    (∀ out, r.aggregate items groupBy qualified = .ok out →
      out.columns = items.map outputName ∧
      List.Forall₂ (fun (c : List Record) (record : Record) =>
        (∀ item ∈ items, record.get? (outputName item) = some (groupValue s c item.1)) ∧
        ∀ name, name ∉ items.map outputName → record.get? name = none) classes out.rows) ∧
    (∀ c ∈ classes, ∀ column,
      (∀ row ∈ c, s.resolve column row = .null ∨ (s.resolve column row).isNaN) →
        groupValue s c (.call .sum (some column)) = .null) ∧
    (r.rows.length < 2 ^ 63 → ∀ c ∈ classes, (Int64.ofNat c.length).toInt = c.length) ∧
    Classes groupBy same r.rows classes := by
  intro s same classes
  have partition := classes_partition s groupBy r.rows
  refine ⟨?_, ?_, ?_, ?_, ?_, partition⟩
  · simp only [aggregate_error_iff aggregates, not_summable_iff]
    rfl
  · intro fault failed
    obtain ⟨v, c, rfl⟩ := fault_of_aggregate aggregates failed
    rfl
  · intro out ok
    obtain ⟨gs, rows, grouped⟩ :=
      groups_eq_ok aggregates groupBy (summable_of_aggregate aggregates ok)
    obtain ⟨gs', grouped', rfl⟩ := aggregate_eq_ok.1 ok
    obtain rfl := Except.ok.inj (grouped.symm.trans grouped')
    refine ⟨addColumns_of_nodup distinct, ?_⟩
    change List.Forall₂ _ (Query.classes s groupBy r.rows) _
    rw [← rows, List.map_map, List.forall₂_map_left_iff, List.forall₂_map_right_iff,
      List.forall₂_same]
    intro g _
    exact ⟨fun item mem => get?_row_after aggregates distinct g mem,
      fun name absent => get?_row_of_not_mem items _ absent⟩
  · intro c _ column absent
    refine sum_eq_null fun v mem => ?_
    obtain ⟨row, member, rfl⟩ := List.mem_map.1 mem
    exact absent row member
  · intro few c mem
    have size : c.length ≤ r.rows.length := by
      rw [← partition.all.length_eq]
      exact (List.sublist_flatten_of_mem mem).length_le
    exact Int64.toInt_ofNat_of_lt (Nat.lt_of_le_of_lt size few)

theorem Relation.aggregate_partition_nan :
    let row (a b : Value) : Record := .ofList [("a", a), ("b", b)]
    let r : Relation :=
      ⟨["a", "b"], [row .notANumber (.int 1), row (.int 7) .null, row .notANumber (.int 2)]⟩
    let items : List SelectItem := [(.column ⟨none, "b"⟩, none), (.call .count none, none),
      (.call .sum (some ⟨none, "b"⟩), some "total")]
    ∃ first second, r.aggregate items [⟨none, "a"⟩] false =
        .ok ⟨["b", "COUNT(*)", "total"], [first, second]⟩ ∧
      first.get? "b" = some (.int 2) ∧ first.get? "COUNT(*)" = some (.int 2) ∧
      first.get? "total" = some (.int 3) ∧ second.get? "total" = some .null := by
  intro row r items
  have aggregates : ∀ item ∈ items, isAggregate item.1 := by decide
  have distinct : (items.map outputName).Nodup := by decide
  obtain ⟨fails, -, made, -, -, -⟩ :=
    r.aggregate_partition items [⟨none, "a"⟩] false aggregates distinct
  have classes : classesBy (fun a b : Record =>
      sameKey [Scope.resolve ⟨r.columns, false⟩ ⟨none, "a"⟩ a]
        [Scope.resolve ⟨r.columns, false⟩ ⟨none, "a"⟩ b]) r.rows =
      [[row .notANumber (.int 1), row .notANumber (.int 2)], [row (.int 7) .null]] := by
    have near : sameKey [Value.notANumber] [.notANumber] = true := by decide
    have far : sameKey [Value.notANumber] [.int 7] = false := by decide
    have key (a b : Value) : Scope.resolve ⟨r.columns, false⟩ ⟨none, "a"⟩ (row a b) = a := by
      have there : (row a b).get? "a" = some a := Dict.get?_ofList_of_mem (by simp) (by simp)
      simp [Scope.resolve, Scope.key?, there]
    simp [r, classesBy, key, near, far]
  cases ran : r.aggregate items [⟨none, "a"⟩] false with
  | error fault =>
      obtain ⟨row', mem, item, mem', c, sums, null, int, -⟩ := fails.1 ⟨fault, ran⟩
      obtain rfl : c = ⟨none, "b"⟩ := by
        simp only [items, List.mem_cons, List.not_mem_nil, or_false] at mem'
        rcases mem' with rfl | rfl | rfl <;> cases sums
        rfl
      rcases List.mem_cons.1 mem with rfl | mem
      · exact absurd rfl (int 1)
      rcases List.mem_cons.1 mem with rfl | mem
      · exact absurd rfl null
      · obtain rfl := List.mem_singleton.1 mem
        exact absurd rfl (int 2)
  | ok out =>
      obtain ⟨columns, rows⟩ := made out ran
      obtain ⟨names, records⟩ := out
      obtain rfl : names = ["b", "COUNT(*)", "total"] := columns
      change List.Forall₂ _ (classesBy (fun a b : Record =>
        sameKey [Scope.resolve ⟨r.columns, false⟩ ⟨none, "a"⟩ a]
          [Scope.resolve ⟨r.columns, false⟩ ⟨none, "a"⟩ b]) r.rows) records at rows
      rw [classes] at rows
      obtain ⟨first, later, ⟨values, -⟩, others, rfl⟩ := List.forall₂_cons_left_iff.1 rows
      obtain ⟨second, last, ⟨values', -⟩, nothing, rfl⟩ := List.forall₂_cons_left_iff.1 others
      obtain rfl := List.forall₂_nil_left_iff.1 nothing
      exact ⟨first, second, rfl, values (.column ⟨none, "b"⟩, none) (by simp [items]),
        values (.call .count none, none) (by simp [items]),
        values (.call .sum (some ⟨none, "b"⟩), some "total") (by simp [items]),
        values' (.call .sum (some ⟨none, "b"⟩), some "total") (by simp [items])⟩

end SqlStore.Query
