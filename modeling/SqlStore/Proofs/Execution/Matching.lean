import SqlStore.Proofs.Execution.Given
import SqlStore.Proofs.Execution.Invariant
import SqlStore.Proofs.Execution.RoundTrip
import SqlStore.Proofs.Query.References

namespace SqlStore

open Query (Relation Scope)
open Sql (Expr Select Statement holdsAll)

/-! ## Conditions over one table -/

namespace Sql

theorem Expr.holds_unqualified (m : OrMode) (columns : List String) (row : Record) (e : Expr) :
    e.holds m ⟨columns, false⟩ row = e.holds m Scope.single row :=
  e.holds_congr fun _ _ => rfl

end Sql

def Sql.Select.matching (name : String) (where? : Option Expr) : Select :=
  { Select.everything name with where? }

namespace Connection

variable {c : Connection} {view : View} {name : String} {n : TableName} {t : Table}
  {stored : List Row}

theorem runStatement_matching (named : TableName.read? name = some n)
    (found : c.table? view n = .ok (some t)) (read : c.rows view n = .ok stored)
    (where? : Option Expr) :
    c.runStatement view (.select (.matching name where?)) =
      ⟨[], .ok (.rows ⟨t.columns.map Column.name, (stored.filter (t.rowHolds c.config where?)).map
        (t.recordOf none c.config.numericPolicy)⟩)⟩ := by
  cases where? with
  | none =>
      have all : stored.filter (t.rowHolds c.config none) = stored :=
        List.filter_eq_self.2 fun _ _ => rfl
      rw [all]
      exact runStatement_everything named found read
  | some condition =>
      have scanned : c.scan view n none = .ok ⟨t.columns.map Column.name,
          stored.map (t.recordOf none c.config.numericPolicy)⟩ := by
        rw [Connection.scan, Connection.table_eq_ok.2 found, read]
        rfl
      have planned : Plan.ofStatement (.select (.matching name (some condition))) =
          .ok (.filter (.scan n none) condition false) := by
        simp only [Plan.ofStatement, Plan.ofSelect, Select.matching, Select.everything,
          Plan.ofTables, Plan.ofTable, TableName.read_eq_ok.2 named]
        rfl
      have kept : (stored.map (t.recordOf none c.config.numericPolicy)).filter
            (condition.holds c.config.orMode ⟨t.columns.map Column.name, false⟩) =
          (stored.filter (t.rowHolds c.config (some condition))).map
            (t.recordOf none c.config.numericPolicy) := by
        rw [List.filter_map]
        congr 1
        refine List.filter_congr fun row _ => ?_
        exact condition.holds_unqualified _ _ _
      rw [Connection.runStatement, planned]
      simp only [Connection.runPlan, Connection.relation, scanned]
      exact congrArg (fun rows => (⟨[], .ok (.rows ⟨_, rows⟩)⟩ : Effect)) kept

end Connection

/-! ## Assigned columns -/

/-- What stands under a column of a row after an `UPDATE`: the stored form of the constant that is
assigned, or what stood there before. -/
def Column.AssignedTo (c : Column) (p : NumericPolicy) (assignments : Dict Value) (row : Row)
    (v : Value) : Prop :=
  match assignments.get? c.name with
  | some given => c.encode? p given = some v
  | none => v = row.getD c.index.toNat .null

namespace Table

variable {t : Table} {p : NumericPolicy}

theorem length_fitRow (row : Row) : (t.fitRow row).length = t.columns.length := by
  rw [fitRow, List.length_append, List.length_replicate, List.length_take]
  omega

theorem fitRow_get? (row : Row) {i : Nat} (lt : i < t.columns.length) :
    (t.fitRow row)[i]? = some (row.getD i .null) := by
  rw [fitRow, List.getElem?_append, List.length_take, List.getD_eq_getElem?_getD]
  split
  · rename_i inside
    have there : i < row.length := by omega
    rw [List.getElem?_take_of_lt lt, List.getElem?_eq_getElem there, Option.getD_some]
  · rename_i outside
    have beyond : row.length ≤ i := by omega
    rw [List.getElem?_replicate_of_lt (by omega), List.getElem?_eq_none beyond, Option.getD_none]

theorem fill_of_assignments {entries : List (String × Value)} {assigned : List (Nat × Value)}
    (ok : (entries.mapM fun e => t.assignment p e.1 e.2) = .ok assigned) (start : Row) :
    ∃ targets : List (Column × Value), (∀ target ∈ targets, target.1 ∈ t.columns) ∧
      targets.map (fun target => (target.1.name, target.2)) = entries ∧
      targets.foldlM (fun row (c, v) => return row.set c.index.toNat (← c.encode p v)) start =
        .ok (assigned.foldl (fun row (i, v) => row.set i v) start) := by
  induction entries generalizing assigned start with
  | nil =>
      rw [List.mapM_nil, pure_eq_ok] at ok
      subst ok
      exact ⟨[], by simp, rfl, rfl⟩
  | cons e entries ih =>
      rw [List.mapM_cons] at ok
      obtain ⟨a, first, ok⟩ := bind_eq_ok.1 ok
      obtain ⟨later, rest, ok⟩ := bind_eq_ok.1 ok
      obtain rfl := pure_eq_ok.1 ok
      obtain ⟨c, column, first⟩ := bind_eq_ok.1 first
      split at first
      · cases first
      · obtain ⟨s, encoded, first⟩ := bind_eq_ok.1 first
        obtain rfl := pure_eq_ok.1 first
        obtain ⟨mem, named⟩ := column_eq_ok column
        obtain ⟨targets, known, names, filled⟩ := ih rest (start.set c.index.toNat s)
        refine ⟨(c, e.2) :: targets, ?_, ?_, ?_⟩
        · exact List.forall_mem_cons.2 ⟨mem, known⟩
        · rw [List.map_cons, names, named]
        · rw [List.foldlM_cons]
          exact bind_eq_ok.2 ⟨_, bind_eq_ok.2 ⟨s, encoded, rfl⟩, filled⟩

theorem length_assign (assigned : List (Nat × Value)) (row : Row) :
    (t.assign assigned row).length = t.columns.length := by
  rw [assign, ← length_fitRow (t := t) row]
  generalize t.fitRow row = start
  induction assigned generalizing start with
  | nil => rfl
  | cons a assigned ih => rw [List.foldl_cons, ih, List.length_set]

theorem assign_assignedTo (placed : Placed 0 t.columns) {assignments : Dict Value}
    {assigned : List (Nat × Value)}
    (ok : (assignments.entries.mapM fun e => t.assignment p e.1 e.2) = .ok assigned) (row : Row) :
    List.Forall₂ (fun c v => c.AssignedTo p assignments row v) t.columns (t.assign assigned row) := by
  obtain ⟨targets, known, names, filled⟩ := fill_of_assignments ok (t.fitRow row)
  refine forall₂_of_index placed (length_assign assigned row) fun c mem => ?_
  obtain ⟨s, there, last⟩ := fill_get? placed known (length_fitRow row) filled mem
  refine ⟨s, there, ?_⟩
  rw [names, Dict.lookup_reverse_entries] at last
  rw [Column.AssignedTo]
  cases given : assignments.get? c.name with
  | some v =>
      rw [given] at last
      exact last
  | none =>
      rw [given] at last
      have lt := (List.getElem?_eq_some_iff.1 (placed.get?_index mem)).1
      rw [fitRow_get? row lt, Option.some.injEq] at last
      exact last.symm

/-- Whether an entry of a `SET` list passes the checks: a constant of a kind that the column takes
and that the policy does not refuse. -/
def Assignable (t : Table) (p : NumericPolicy) (name : String) (e : Expr) : Prop :=
  ∃ l c, e = .literal l ∧ t.column? name = some c ∧ c.kind.accepts l.value = true ∧
    (c.encode? p l.value).isSome

theorem Assignable.constant {name : String} {e : Expr} (assignable : t.Assignable p name e) :
    Plan.constant e = .ok e.given := by
  obtain ⟨l, c, rfl, -⟩ := assignable
  rfl

theorem Assignable.assignment {name : String} {e : Expr} (assignable : t.Assignable p name e) :
    ∃ a, t.assignment p name e.given = .ok a := by
  obtain ⟨l, c, rfl, found, accepts, some⟩ := assignable
  obtain ⟨s, encoded⟩ := Option.isSome_iff_exists.1 some
  refine ⟨(c.index.toNat, s), ?_⟩
  have column : t.column name = .ok c := by rw [column, found]
  rw [Table.assignment, column]
  refine bind_eq_ok.2 ⟨c, rfl, ?_⟩
  rw [if_neg (by simpa [Expr.given] using accepts)]
  exact bind_eq_ok.2 ⟨s, encode_eq_ok.2 encoded, rfl⟩

theorem exists_assigned {assignments : Dict Expr}
    (assignable : ∀ e ∈ assignments.entries, t.Assignable p e.1 e.2) :
    ∃ assigned, ((assignments.map Expr.given).entries.mapM fun e => t.assignment p e.1 e.2) =
      .ok assigned :=
  exists_mapM_eq_ok (List.forall_mem_map.2 fun e mem => (assignable e mem).assignment)

end Table

theorem Plan.mapExcept_constant {assignments : Dict Expr}
    (constants : ∀ e ∈ assignments.entries, Plan.constant e.2 = .ok e.2.given) :
    assignments.mapExcept Plan.constant = .ok (assignments.map Expr.given) := by
  refine bind_eq_ok.2 ⟨(assignments.map Expr.given).entries, mapM_eq_ok.2 ?_, ?_⟩
  · rw [Dict.map, List.map_map]
    refine List.map_congr_left fun e mem => ?_
    rw [constants e mem]
    rfl
  · rw [Dict.ofList_entries]
    rfl

namespace Connection

variable {c : Connection} {view : View} {name : String} {n : TableName} {t : Table}
  {stored : List Row}

theorem runStatement_delete (named : TableName.read? name = some n)
    (found : c.table? view n = .ok (some t)) (read : c.rows view n = .ok stored)
    (where? : Option Expr) :
    c.runStatement view (.delete [⟨name, none, none⟩] where?) =
      ⟨[c.storeRows n (stored.filter fun row => !t.rowHolds c.config where? row)],
        .ok (.changed (.deleted (stored.countP (t.rowHolds c.config where?))))⟩ := by
  have planned : Plan.ofStatement (.delete [⟨name, none, none⟩] where?) =
      .ok (.command (.delete n where?)) := by
    rw [Plan.ofStatement, TableName.read_eq_ok.2 named]
    rfl
  have ran : c.delete view n where? = .ok (_, _) :=
    delete_eq_ok.2 ⟨t, stored, table_eq_ok.2 found, read, rfl, rfl⟩
  simp only [runStatement, planned, runPlan, runCommand, ran]

theorem runStatement_update (named : TableName.read? name = some n)
    (found : c.table? view n = .ok (some t)) (read : c.rows view n = .ok stored)
    (where? : Option Expr) {assignments : Dict Expr}
    (assignable : ∀ e ∈ assignments.entries, t.Assignable c.config.numericPolicy e.1 e.2) :
    ∃ assigned, ((assignments.map Expr.given).entries.mapM fun e =>
        t.assignment c.config.numericPolicy e.1 e.2) = .ok assigned ∧
      c.runStatement view (.update name assignments where?) =
        ⟨[c.storeRows n (stored.map fun row =>
            if t.rowHolds c.config where? row then t.assign assigned row else row)],
          .ok (.changed (.updated (stored.countP (t.rowHolds c.config where?))))⟩ := by
  obtain ⟨assigned, made⟩ := Table.exists_assigned assignable
  refine ⟨assigned, made, ?_⟩
  have planned : Plan.ofStatement (.update name assignments where?) =
      .ok (.command (.update n (assignments.map Expr.given) where?)) := by
    rw [Plan.ofStatement, TableName.read_eq_ok.2 named,
      Plan.mapExcept_constant fun e mem => (assignable e mem).constant]
    rfl
  have ran : c.update view n (assignments.map Expr.given) where? = .ok (_, _) :=
    update_eq_ok.2 ⟨t, assigned, stored, table_eq_ok.2 found, made, read, rfl, rfl⟩
  simp only [runStatement, planned, runPlan, runCommand, ran]

end Connection

/-- A `SELECT *`, a `DELETE` and an `UPDATE` with one condition match the same rows of a table. The
`DELETE` stores the rows whose records the `SELECT` does not show, in their order, and the `UPDATE`
all rows in their order. Those that are not shown it leaves as they are, and the others have a
value for every column: the assigned constant in its stored form, or what the row had, NULL where
it was too short. Both count as many rows as are shown. -/
theorem Connection.runStatement_matches (c : Connection) (view : View) {name : String}
    {n : TableName} {t : Table} {stored : List Row} (named : TableName.read? name = some n)
    (found : c.table? view n = .ok (some t)) (read : c.rows view n = .ok stored)
    (where? : Option Expr) {assignments : Dict Expr}
    (assignable : ∀ e ∈ assignments.entries, t.Assignable c.config.numericPolicy e.1 e.2) :
    ∃ (r : Relation) (changed : List Row),
      let shown (row : Row) : Bool :=
        decide (t.recordOf none c.config.numericPolicy row ∈ r.rows)
      c.runStatement view (.select (.matching name where?)) = ⟨[], .ok (.rows r)⟩ ∧
      r.columns = t.columns.map Column.name ∧
      r.rows = (stored.filter shown).map (t.recordOf none c.config.numericPolicy) ∧
      c.runStatement view (.delete [⟨name, none, none⟩] where?) =
        ⟨[c.storeRows n (stored.filter fun row => !shown row)],
          .ok (.changed (.deleted r.rows.length))⟩ ∧
      c.runStatement view (.update name assignments where?) =
        ⟨[c.storeRows n changed], .ok (.changed (.updated r.rows.length))⟩ ∧
      List.Forall₂ (fun row row' =>
        if shown row then
          List.Forall₂ (fun column v =>
            column.AssignedTo c.config.numericPolicy (assignments.map Expr.given) row v) t.columns row'
        else row' = row) stored changed := by
  obtain ⟨assigned, made, updates⟩ := runStatement_update named found read where? assignable
  refine ⟨⟨t.columns.map Column.name, (stored.filter (t.rowHolds c.config where?)).map
      (t.recordOf none c.config.numericPolicy)⟩, stored.map fun row =>
        if t.rowHolds c.config where? row then t.assign assigned row else row, ?_⟩
  refine ⟨runStatement_matching named found read where?, rfl, ?_⟩
  -- A row is shown if it satisfies the condition, since that only looks at its record.
  have shown : ∀ row ∈ stored, decide (t.recordOf none c.config.numericPolicy row ∈
      (stored.filter (t.rowHolds c.config where?)).map (t.recordOf none c.config.numericPolicy)) =
        t.rowHolds c.config where? row := by
    intro row mem
    rw [Bool.eq_iff_iff, decide_eq_true_iff, List.mem_map]
    constructor
    · rintro ⟨row', mem', same⟩
      have holds := (List.mem_filter.1 mem').2
      rw [Table.rowHolds, same] at holds
      exact holds
    · intro holds
      exact ⟨row, List.mem_filter.2 ⟨mem, holds⟩, rfl⟩
  have count : ((stored.filter (t.rowHolds c.config where?)).map
      (t.recordOf none c.config.numericPolicy)).length =
        stored.countP (t.rowHolds c.config where?) := by
    rw [List.length_map, List.countP_eq_length_filter]
  refine ⟨?_, ?_, ?_, ?_⟩
  · rw [List.filter_congr shown]
  · rw [List.filter_congr fun row mem => congrArg not (shown row mem), count]
    exact runStatement_delete named found read where?
  · rw [count]
    exact updates
  · rw [List.forall₂_map_right_iff, List.forall₂_same]
    intro row mem
    simp only [shown row mem]
    split
    · exact Table.assign_assignedTo (placed found) made row
    · rfl

theorem Connection.runStatement_matches_three :
    let c : Connection := ⟨"db", .default⟩
    let t : Table := ⟨"t", [⟨"id", .integer, 0, none, none⟩, ⟨"tag", .string, 1, some 2, some ' '⟩]⟩
    let stored : List Row := [[.int 1, .text "x "], [.int 2], [.int 3, .text "y ", .bool true]]
    let view : View := fun key =>
      if key = c.definitionKey ⟨none, "t"⟩ then some t.definitionText
      else if key = c.rowsKey ⟨none, "t"⟩ then some (Row.storedText stored) else none
    let where? : Option Expr := some (.binary .greater (.column ⟨none, "id"⟩) (.literal (.int 1)))
    let assignments : Dict Expr := .ofList [("tag", .literal (.text "zed"))]
    ∃ r changed, c.runStatement view (.select (.matching "t" where?)) = ⟨[], .ok (.rows r)⟩ ∧
      c.runStatement view (.delete [⟨"t", none, none⟩] where?) =
        ⟨[c.storeRows ⟨none, "t"⟩ [[.int 1, .text "x "]]], .ok (.changed (.deleted 2))⟩ ∧
      c.runStatement view (.update "t" assignments where?) =
        ⟨[c.storeRows ⟨none, "t"⟩ changed], .ok (.changed (.updated r.rows.length))⟩ ∧
      r.rows.length = 2 ∧ changed.length = 3 := by
  intro c t stored view where? assignments
  have matching : stored.filter (t.rowHolds c.config where?) =
      [[.int 2], [.int 3, .text "y ", .bool true]] := by decide +revert
  have others : (stored.filter fun row => !decide (t.recordOf none c.config.numericPolicy row ∈
      (stored.filter (t.rowHolds c.config where?)).map (t.recordOf none c.config.numericPolicy))) =
        [[.int 1, .text "x "]] := by
    rw [matching]
    decide
  have named : TableName.read? "t" = some ⟨none, "t"⟩ := rfl
  have checked : t.check = .ok () := rfl
  have found : c.table? view ⟨none, "t"⟩ = .ok (some t) := table?_definitionText checked (if_pos rfl)
  have exact : ∀ row ∈ stored, ∀ v ∈ row, v.exact := by decide
  have read : c.rows view ⟨none, "t"⟩ = .ok stored := rows_of_exact exact rfl
  have assignable : ∀ e ∈ assignments.entries, t.Assignable c.config.numericPolicy e.1 e.2 := by
    intro e mem
    obtain rfl := List.mem_singleton.1 mem
    exact ⟨.text "zed", ⟨"tag", .string, 1, some 2, some ' '⟩, rfl, rfl, rfl, rfl⟩
  obtain ⟨r, changed, selects, columns, rows, deletes, updates, all⟩ :=
    c.runStatement_matches view named found read where? assignable
  have matched := selects.symm.trans (runStatement_matching named found read where?)
  rw [Effect.mk.injEq, Except.ok.injEq, Answer.rows.injEq] at matched
  obtain rfl := matched.2
  refine ⟨_, changed, selects, ?_, updates, ?_, all.length_eq.symm⟩
  · rw [others, matching] at deletes
    exact deletes
  · rw [matching]
    rfl

end SqlStore
