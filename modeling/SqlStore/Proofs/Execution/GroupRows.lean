import SqlStore.Proofs.Execution.Matching
import SqlStore.Proofs.Execution.SameRows

namespace SqlStore

open Query (Relation Scope classes groupValue isAggregate outputName shownValue)
open Sql (ColumnRef Expr Literal Select SelectItem)

/-! ## Rows with the value of a group -/

namespace Query

theorem class_eq_filter {r : Relation} {k : ColumnRef} {rows : List Record}
    (mem : rows ∈ classes ⟨r.columns, false⟩ [k] r.rows)
    (consistent : Value.Consistent
      ((r.rows.map (shownValue k.name)).filter fun v => !v.isNaN)) :
    ∃ v ∈ r.rows.map (shownValue k.name),
      groupValue ⟨r.columns, false⟩ rows (.column k) = v ∧
      ∀ l : Literal, l.value = v → v.isNaN = false → ∀ m,
        r.filter m false (.binary .equal (.column k) (.literal l)) = ⟨r.columns, rows⟩ := by
  let value (row : Record) : Value := shownValue k.name row
  obtain ⟨first, memFirst, same⟩ :=
    (classes_partition ⟨r.columns, false⟩ [k] r.rows).full (List.cons_ne_nil _ _) rows mem
  have group : rows = r.rows.filter fun row => (value first).sameGroup (value row) := by
    rw [same]
    exact List.filter_congr fun row _ => Bool.and_true _
  have members (row : Record) :
      row ∈ rows ↔ row ∈ r.rows ∧ (value first).sameGroup (value row) = true := by
    rw [group, List.mem_filter]
  have nonempty : rows ≠ [] :=
    List.ne_nil_of_mem ((members first).2 ⟨memFirst, Value.sameGroup_equivalence.refl _⟩)
  let last := rows.getLast nonempty
  obtain ⟨memLast, related⟩ := (members last).1 (rows.getLast_mem nonempty)
  have values {row : Record} (mem : row ∈ r.rows) (number : (value row).isNaN = false) :
      value row ∈ (r.rows.map value).filter fun v => !v.isNaN :=
    List.mem_filter.2 ⟨List.mem_map_of_mem mem, by rw [number]; rfl⟩
  refine ⟨value last, List.mem_map_of_mem memLast, ?_, fun l literal number m => ?_⟩
  · rw [groupValue, List.getLast?_eq_getLast_of_ne_nil nonempty]
    rfl
  · refine congrArg (Relation.mk r.columns) ?_
    rw [group]
    refine List.filter_congr fun row mem => ?_
    -- A row is in the group of the first row just if it is in that of the last.
    have compared : (value row).compare? (value last) = some .eq ↔
        (value row).sameGroup (value last) = true :=
      Value.compare?_eq_iff_sameGroup number fun number' =>
        consistent.kind _ (values mem number') _ (values memLast number)
    rw [Bool.eq_iff_iff]
    refine Iff.trans ?_ (compared.trans ⟨fun near => ?_, fun near => ?_⟩)
    · rw [Expr.holds, Sql.BinaryOp.holds, beq_iff_eq, Expr.value, Expr.value, literal]
      rfl
    · exact Value.sameGroup_equivalence.trans related (Value.sameGroup_equivalence.symm near)
    · exact Value.sameGroup_equivalence.trans (Value.sameGroup_equivalence.symm near) related

theorem aggregate_whole {r : Relation} {items : List SelectItem} {qualified : Bool}
    (aggregates : ∀ item ∈ items, isAggregate item.1) (distinct : (items.map outputName).Nodup)
    (summable : ∀ row ∈ r.rows, Summable ⟨r.columns, qualified⟩ items row) :
    ∃ out, r.aggregate items [] qualified = .ok out ∧
      out.table = [items.map fun item => groupValue ⟨r.columns, qualified⟩ r.rows item.1] := by
  obtain ⟨gs, -, made⟩ := groups_eq_ok aggregates [] summable
  have ok := Relation.aggregate_eq_ok.2 ⟨_, made, rfl⟩
  exact ⟨_, ok, Relation.aggregate_table aggregates distinct ok⟩

end Query

/-! ## Sums and counts -/

namespace Sql

def totals (x : ColumnRef) : List SelectItem :=
  [(.call .sum (some x), none), (.call .count none, none)]

def Select.grouped (name : String) (k x : ColumnRef) : Select :=
  { Select.everything name with items := (.column k, none) :: totals x, groupBy := [k] }

def Select.totalled (name : String) (x : ColumnRef) (condition : Expr) : Select :=
  { Select.matching name (some condition) with items := totals x }

theorem outputName_totals_nodup (x : ColumnRef) : ((totals x).map outputName).Nodup := by
  have apart : outputName (.call .sum (some x), none) ≠ outputName (.call .count none, none) := by
    intro same
    have first := congrArg (fun s : String => s.toList.head?) same
    simp [outputName, Aggregate.text] at first
  simpa [totals] using apart

theorem isAggregate_totals (x : ColumnRef) : ∀ item ∈ totals x, isAggregate item.1 := by
  simp [totals, isAggregate]

end Sql

namespace Connection

variable {c : Connection} {view : View} {s : Select}

theorem selected_aggregated (calls : s.items.any Plan.isCall = true) (unsorted : s.orderBy = [])
    (unlimited : s.limit? = none) :
    c.selected view s = (do
      let tables ← Plan.ofTables s.tables
      let r ← (c.relation view (Plan.filtered s tables)).mapError Failure.error
      (r.aggregate s.items s.groupBy (decide (1 < s.tables.length))).mapError Error.notGrouped) := by
  have sorting : s.orderBy.mapM Plan.sortColumn = .ok [] := by
    rw [unsorted]
    rfl
  rw [selected_operated unlimited sorting]
  cases Plan.ofTables s.tables with
  | error e => rfl
  | ok tables =>
      change (Plan.operated s _ (Plan.filtered s tables) [] >>= _) = _
      rw [Plan.operated, if_pos calls]
      change (c.relation view (.aggregate _ _ _ _)).mapError _ = _
      rw [relation]
      change _ = (c.relation view (Plan.filtered s tables)).mapError Failure.error >>= _
      cases c.relation view (Plan.filtered s tables) with
      | error failure => rfl
      | ok r =>
          change ((r.aggregate _ _ _).mapError _).mapError _ = (r.aggregate _ _ _).mapError _
          cases r.aggregate s.items s.groupBy (decide (1 < s.tables.length)) <;> rfl

theorem runStatement_aggregated {name : String} {all : Relation}
    (shown : c.runStatement view (.select (.everything name)) = ⟨[], .ok (.rows all)⟩)
    (calls : s.items.any Plan.isCall = true) (table : s.tables = [⟨name, none, none⟩])
    (unsorted : s.orderBy = []) (unlimited : s.limit? = none) (out : Relation) :
    c.runStatement view (.select s) = ⟨[], .ok (.rows out)⟩ ↔
      Relation.aggregate s.items s.groupBy false
        (s.where?.elim all fun condition => all.filter c.config.orMode false condition) =
          .ok out := by
  have whole :=
    (selected_all (s := .everything name)).symm.trans (runStatement_select_eq_rows.1 shown)
  obtain ⟨source, scanned, rest⟩ := bind_eq_ok.1 whole
  have found : c.relation view source = .ok all := mapError_eq_ok.1 rest
  have rows : c.relation view (Plan.filtered s source) =
      .ok (s.where?.elim all fun condition => all.filter c.config.orMode false condition) := by
    rw [Plan.filtered, table]
    cases s.where? with
    | none => exact found
    | some condition =>
        change c.relation view (.filter ..) = _
        rw [relation, found]
        rfl
  rw [runStatement_select_eq_rows, selected_aggregated calls unsorted unlimited, table]
  change (Plan.ofTables (Select.everything name).tables >>= _) = _ ↔ _
  rw [scanned]
  change ((c.relation view (Plan.filtered s source)).mapError Failure.error >>= _) = _ ↔ _
  rw [rows]
  exact mapError_eq_ok

end Connection

theorem Sql.Literal.exists_value {v : Value} (noDate : ∀ t, v ≠ .date t) :
    ∃ l : Literal, l.value = v := by
  cases v with
  | null => exact ⟨.null, rfl⟩
  | bool b => exact ⟨.bool b, rfl⟩
  | int i => exact ⟨.int i, rfl⟩
  | float x => exact ⟨.float x, rfl⟩
  | text s => exact ⟨.text s, rfl⟩
  | date t => exact absurd rfl (noDate t)

/-- `GROUP BY` and `WHERE` agree on what is equal. In a column whose values are of one kind, apart
from NULL and NaN, and no dates, every group shows a value that a constant can be. Unless this is
NaN, the condition that the column equals the constant finds the rows of the group: over them the
sum and the count are the same. -/
theorem Connection.runStatement_group_where (c : Connection) (view : View) {name : String}
    {all groups : Relation} (k x : ColumnRef)
    (shown : c.runStatement view (.select (.everything name)) = ⟨[], .ok (.rows all)⟩)
    (named : k.name ∉ (Sql.totals x).map outputName)
    (consistent : Value.Consistent
      ((all.rows.map (shownValue k.name)).filter fun v => !v.isNaN))
    (noDate : ∀ v ∈ all.rows.map (shownValue k.name), ∀ t, v ≠ .date t)
    (grouped : c.runStatement view (.select (.grouped name k x)) = ⟨[], .ok (.rows groups)⟩) :
    ∀ row ∈ groups.table, ∃ v sum count, row = [v, sum, count] ∧
      (v.isNaN = false → ∃ l : Literal, l.value = v ∧ ∃ totals,
        c.runStatement view (.select
            (.totalled name x (.binary .equal (.column k) (.literal l)))) =
          ⟨[], .ok (.rows totals)⟩ ∧
        totals.table = [[sum, count]]) := by
  have distinct : (((Expr.column k, none) :: Sql.totals x).map outputName).Nodup :=
    List.nodup_cons.2 ⟨named, Sql.outputName_totals_nodup x⟩
  have aggregates : ∀ item ∈ (Expr.column k, none) :: Sql.totals x, isAggregate item.1 :=
    List.forall_mem_cons.2 ⟨rfl, Sql.isAggregate_totals x⟩
  have made : all.aggregate ((.column k, none) :: Sql.totals x) [k] false = .ok groups :=
    (runStatement_aggregated shown rfl rfl rfl rfl groups).1 grouped
  rw [Relation.aggregate_table aggregates distinct made]
  intro row mem
  obtain ⟨rows, group, rfl⟩ := List.mem_map.1 mem
  obtain ⟨v, memV, value, finds⟩ := Query.class_eq_filter group consistent
  refine ⟨v, _, _, congrArg (· :: _) value, fun number => ?_⟩
  obtain ⟨l, literal⟩ := Sql.Literal.exists_value (noDate v memV)
  let condition : Expr := .binary .equal (.column k) (.literal l)
  have filtered : all.filter c.config.orMode false condition = ⟨all.columns, rows⟩ :=
    finds l literal number c.config.orMode
  -- What could be summed up in all rows can be summed up in those of the group.
  have summable : ∀ row ∈ (all.filter c.config.orMode false condition).rows,
      Query.Summable ⟨all.columns, false⟩ (Sql.totals x) row := fun row mem item mem' =>
    Relation.summable_of_aggregate aggregates made row (List.mem_filter.1 mem).1 item
      (List.mem_cons_of_mem _ mem')
  obtain ⟨totals, ok, table⟩ :=
    Query.aggregate_whole (Sql.isAggregate_totals x) (Sql.outputName_totals_nodup x) summable
  refine ⟨l, literal, totals, ?_, ?_⟩
  · exact (runStatement_aggregated (s := .totalled name x condition) shown rfl rfl rfl rfl totals).2 ok
  · rw [table, filtered]
    rfl

theorem Connection.runStatement_group_where_null :
    let c : Connection := ⟨"db", .default⟩
    let t : Table := ⟨"t", [⟨"k", .string, 0, none, none⟩, ⟨"x", .integer, 1, none, none⟩]⟩
    let stored : List Row :=
      [[.text "a", .int 3], [.null, .int 4], [.text "a", .null], [.null, .int 5]]
    let view : View := fun key =>
      if key = c.definitionKey ⟨none, "t"⟩ then some t.definitionText
      else if key = c.rowsKey ⟨none, "t"⟩ then some (Row.storedText stored) else none
    let k : ColumnRef := ⟨none, "k"⟩
    let x : ColumnRef := ⟨none, "x"⟩
    ∃ groups totals,
      c.runStatement view (.select (.grouped "t" k x)) = ⟨[], .ok (.rows groups)⟩ ∧
      groups.table = [[.text "a", .int 3, .int 2], [.null, .int 9, .int 2]] ∧
      c.runStatement view (.select
          (.totalled "t" x (.binary .equal (.column k) (.literal .null)))) =
        ⟨[], .ok (.rows totals)⟩ ∧
      totals.table = [[.int 9, .int 2]] := by
  intro c t stored view k x
  let all : Relation := ⟨["k", "x"], stored.map (t.recordOf none c.config.numericPolicy)⟩
  let row (v sum count : Value) : Record :=
    .ofList [("k", v), ("SUM(x)", sum), ("COUNT(*)", count)]
  let groups : Relation := ⟨["k", "SUM(x)", "COUNT(*)"],
    [row (.text "a") (.int 3) (.int 2), row .null (.int 9) (.int 2)]⟩
  have checked : t.check = .ok () := rfl
  have exact : ∀ row ∈ stored, ∀ v ∈ row, v.exact := by decide
  have shown : c.runStatement view (.select (.everything "t")) = ⟨[], .ok (.rows all)⟩ :=
    runStatement_everything (n := ⟨none, "t"⟩) rfl (table?_definitionText checked (if_pos rfl))
      (rows_of_exact exact rfl)
  have grouped : c.runStatement view (.select (.grouped "t" k x)) = ⟨[], .ok (.rows groups)⟩ := by
    refine (runStatement_aggregated shown rfl rfl rfl rfl groups).2 ?_
    exact eq_ok_of_toOption (by decide)
  have consistent : Value.Consistent
      ((all.rows.map (shownValue k.name)).filter fun v => !v.isNaN) := by decide
  have noDate : ∀ v ∈ all.rows.map (shownValue k.name), ∀ t, v ≠ .date t := by
    have values : all.rows.map (shownValue k.name) = [.text "a", .null, .text "a", .null] := by
      decide
    simp [values]
  have table : groups.table = [[.text "a", .int 3, .int 2], [.null, .int 9, .int 2]] := by
    decide
  obtain ⟨v, sum, count, same, finds⟩ :=
    c.runStatement_group_where view k x shown (by decide) consistent noDate grouped
      [.null, .int 9, .int 2] (by simp [table])
  cases same
  obtain ⟨l, literal, totals, totalled, total⟩ := finds rfl
  cases l <;> cases literal
  exact ⟨groups, totals, grouped, table, totalled, total⟩

end SqlStore
