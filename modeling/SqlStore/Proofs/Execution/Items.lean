import SqlStore.Proofs.Execution.GroupRows

/-!
# Items of a select list

The output of a `SELECT` holds the values of the items under their names. Items with a name of
their own all reach the output. Of several items of one name the last one does, in one column.
-/

namespace SqlStore

open Query (Relation Scope addColumns classes groupValue isAggregate outputName)
open Sql (ColumnRef Direction Expr Select SelectItem)

/-! ## Rows of the output -/

namespace Query

def itemRow (s : Scope) (items : List SelectItem) (group : List Record) : Record :=
  Dict.ofList (items.map fun item => (outputName item, groupValue s group item.1))

def lastNamed? (items : List SelectItem) (name : String) : Option SelectItem :=
  items.reverse.find? fun item => outputName item == name

def namedValue (s : Scope) (items : List SelectItem) (group : List Record) (name : String) :
    Value :=
  ((lastNamed? items name).map fun item => groupValue s group item.1).getD .null

theorem get?_itemRow (s : Scope) (items : List SelectItem) (group : List Record) (name : String) :
    (itemRow s items group).get? name =
      (lastNamed? items name).map fun item => groupValue s group item.1 := by
  rw [itemRow, Dict.get?_ofList, ← List.map_reverse, lastNamed?]
  induction items.reverse with
  | nil => rfl
  | cons item items ih =>
      rw [List.map_cons, Dict.lookup_entry, ih, List.find?_cons]
      by_cases named : name = outputName item
      · rw [if_pos named, beq_iff_eq.2 named.symm]
        rfl
      · rw [if_neg named, beq_eq_false_iff_ne.2 (Ne.symm named)]

theorem namedValue_of_nodup {items : List SelectItem} (distinct : (items.map outputName).Nodup)
    {item : SelectItem} (mem : item ∈ items) (s : Scope) (group : List Record) :
    namedValue s items group (outputName item) = groupValue s group item.1 := by
  have last : (lastNamed? items (outputName item)) = some item := by
    cases found : lastNamed? items (outputName item) with
    | none =>
        have none := List.find?_eq_none.1 found item (List.mem_reverse.2 mem)
        simp at none
    | some other =>
        have named : outputName other = outputName item := by simpa using List.find?_some found
        have mem' := List.mem_reverse.1 (List.mem_of_find?_eq_some found)
        rw [List.inj_on_of_nodup_map distinct mem' mem named]
  rw [namedValue, last]
  rfl

/-! ## Groups of items that do not aggregate -/

theorem isAggregate_of_start {e : Expr} {a : Accumulator} (ok : Accumulator.start e = .ok a) :
    isAggregate e := by
  unfold Accumulator.start at ok
  split at ok
  · rfl
  · rfl
  · rfl
  · cases ok

theorem aggregates_of_start {items : List SelectItem} {key : List Value} {g : Group}
    (ok : Group.start items key = .ok g) : ∀ item ∈ items, isAggregate item.1 := by
  obtain ⟨accumulators, started, -⟩ := bind_eq_ok.1 ok
  intro item mem
  have there : Accumulator.start item.1 ∈ accumulators.map .ok := by
    rw [← mapM_eq_ok.1 started]
    exact List.mem_map_of_mem (f := fun item : SelectItem => Accumulator.start item.1) mem
  obtain ⟨a, -, same⟩ := List.mem_map.1 there
  exact isAggregate_of_start same.symm

theorem aggregates_of_groups {s : Scope} {items : List SelectItem} {groupBy : List ColumnRef}
    {rows : List Record} {gs : List Group} (ok : groups s items groupBy rows = .ok gs) :
    (∀ item ∈ items, isAggregate item.1) ∨ gs = [] ∧ classes s groupBy rows = [] := by
  obtain ⟨start, started, filled⟩ := bind_eq_ok.1 ok
  -- Items that do not aggregate are only found out where there is a group to start.
  by_cases whole : groupBy = []
  · subst whole
    obtain ⟨g, first, -⟩ := bind_eq_ok.1 ((List.mapM_cons (m := Except _)).symm.trans started)
    exact .inl (aggregates_of_start first)
  · rw [if_neg (by simpa using whole), List.mapM_nil] at started
    obtain rfl := pure_eq_ok.1 started
    cases rows with
    | nil =>
        refine .inr ⟨(pure_eq_ok.1 filled).symm, ?_⟩
        rw [classes, if_neg (by simpa using whole), classesBy]
    | cons row rows =>
        rw [List.foldlM_cons] at filled
        obtain ⟨gs', added, -⟩ := bind_eq_ok.1 filled
        obtain ⟨g, first, -⟩ := bind_eq_ok.1 added
        exact .inl (aggregates_of_start first)

/-! ## Relations that show groups -/

/-- Whether a relation shows groups of rows, in their order. -/
structure Shows (s : Scope) (items : List SelectItem) (groups : List (List Record))
    (r : Relation) : Prop where
  columns : r.columns = addColumns [] (items.map outputName)
  rows : r.rows = groups.map (itemRow s items)

namespace Shows

variable {s : Scope} {items : List SelectItem} {groups : List (List Record)} {r : Relation}

theorem table (shows' : Shows s items groups r) :
    r.table = groups.map fun group => r.columns.map (namedValue s items group) := by
  rw [Relation.table, shows'.rows, List.map_map]
  refine List.map_congr_left fun group _ => List.map_congr_left fun name _ => ?_
  rw [get?_itemRow]
  rfl

theorem order (shows' : Shows s items groups r) (keys : List (ColumnRef × Direction))
    (qualified : Bool) :
    ∃ sorted, sorted.Perm groups ∧ Shows s items sorted (r.order keys qualified) := by
  have sorted := (Relation.order_rows keys qualified r).trans (congrArg _ shows'.rows)
  rw [sortRows, stableSort_map] at sorted
  exact ⟨_, stableSort_perm groups, shows'.columns, sorted⟩

theorem window (shows' : Shows s items groups r) (offset count : Nat) :
    Shows s items ((groups.drop offset).take count) ((r.offset offset).limit count) := by
  refine ⟨shows'.columns, ?_⟩
  rw [List.map_take, List.map_drop, ← shows'.rows]
  rfl

theorem project {columns : List (ColumnRef × Option String)}
    (listed : items.mapM Plan.selectedColumn = .ok columns) (r : Relation) (qualified : Bool) :
    Shows ⟨r.columns, qualified⟩ items (r.rows.map fun row => [row])
      (r.project columns qualified) := by
  have written : columns.map (fun column => (Expr.column column.1, column.2)) = items := by
    have same := map_eq_of_mapM_eq_ok (h := id)
      (fun _ _ ok => (Plan.selectedColumn_eq_ok ok).symm) listed
    rwa [List.map_id] at same
  subst written
  constructor
  · rw [List.map_map]
    rfl
  · rw [Relation.project, List.map_map]
    refine List.map_congr_left fun row _ => ?_
    rw [Function.comp_apply, itemRow, List.map_map]
    rfl

theorem aggregate {groupBy : List ColumnRef} {qualified : Bool} {out : Relation}
    (ok : r.aggregate items groupBy qualified = .ok out) :
    Shows ⟨r.columns, qualified⟩ items (classes ⟨r.columns, qualified⟩ groupBy r.rows) out := by
  obtain ⟨gs, grouped, rfl⟩ := Relation.aggregate_eq_ok.1 ok
  refine ⟨rfl, ?_⟩
  rcases aggregates_of_groups grouped with aggregates | ⟨rfl, none⟩
  · obtain ⟨gs', rows, grouped'⟩ :=
      groups_eq_ok aggregates groupBy (Relation.summable_of_aggregate aggregates ok)
    obtain rfl := Except.ok.inj (grouped.symm.trans grouped')
    rw [← rows, List.map_map, List.map_map]
    refine List.map_congr_left fun g _ => ?_
    rw [Function.comp_apply, Function.comp_apply, Group.row, itemRow, Group.after, List.map_map,
      List.zip_map']
    refine congrArg Dict.ofList (List.map_congr_left fun item mem => ?_)
    rw [Function.comp_apply, Accumulator.value_after (aggregates item mem)]
  · rw [none]
    rfl

end Shows

end Query

/-! ## What a SELECT shows of its tables -/

/-- The groups of rows that the items of a `SELECT` have their values for. Without an aggregate call
every row of the tables stands alone. -/
def Sql.Select.groupsOf (s : Select) (qualified : Bool) (source : Relation) : List (List Record) :=
  if s.items.any Plan.isCall then classes ⟨source.columns, qualified⟩ s.groupBy source.rows
  else source.rows.map fun row => [row]

namespace Connection

variable {c : Connection} {view : View} {s : Select}

open Query (Shows namedValue)

theorem shows_operated (nonempty : s.items ≠ []) {qualified : Bool}
    {keys : List (ColumnRef × Direction)} {tables plan : Plan} {r : Relation}
    (planned : Plan.operated s qualified tables keys = .ok plan)
    (ok : c.relation view plan = .ok r) :
    ∃ source groups, c.relation view tables = .ok source ∧
      groups.Perm (s.groupsOf qualified source) ∧
      Shows ⟨source.columns, qualified⟩ s.items groups r := by
  rw [Plan.operated] at planned
  by_cases calls : s.items.any Plan.isCall = true
  · rw [if_pos calls] at planned
    obtain ⟨keys', -, made⟩ := bind_eq_ok.1 planned
    rw [← pure_eq_ok.1 made, relation_sorted] at ok
    obtain ⟨out, grouped, rfl⟩ := map_eq_ok.1 ok
    obtain ⟨source, found, aggregated⟩ := bind_eq_ok.1 grouped
    obtain ⟨groups, perm, shown⟩ :=
      (Shows.aggregate (mapError_eq_ok.1 aggregated)).order keys' false
    refine ⟨source, groups, found, ?_, shown⟩
    rwa [Sql.Select.groupsOf, if_pos calls]
  · rw [if_neg calls] at planned
    obtain ⟨columns, listed, made⟩ := bind_eq_ok.1 planned
    have projected := pure_eq_ok.1 made
    rw [if_neg (Plan.listed_nonempty nonempty listed)] at projected
    rw [← projected, relation, relation_sorted] at ok
    obtain ⟨sorted, ordered, last⟩ := bind_eq_ok.1 ok
    obtain ⟨source, found, rfl⟩ := map_eq_ok.1 ordered
    obtain rfl := pure_eq_ok.1 last
    -- Without an aggregate call the rows are sorted before they are projected.
    refine ⟨source, _, found, ?_, Shows.project listed (source.order _ qualified) qualified⟩
    rw [Sql.Select.groupsOf, if_neg calls, Relation.order_rows]
    exact (stableSort_perm _).map _

theorem shows_limited {shown plan : Plan} {limited : Relation}
    (planned : Plan.limited s shown = .ok plan) (ok : c.relation view plan = .ok limited) :
    ∃ r, c.relation view shown = .ok r ∧ ∀ scope items groups, Shows scope items groups r →
      ∃ groups', groups'.Sublist groups ∧ (s.limit? = none → groups' = groups) ∧
        Shows scope items groups' limited := by
  rw [Plan.limited] at planned
  split at planned
  · rename_i arguments some
    obtain ⟨ns, -, made⟩ := bind_eq_ok.1 planned
    split at made
    · rename_i start count
      rw [← pure_eq_ok.1 made, relation_window] at ok
      obtain ⟨r, found, rfl⟩ := map_eq_ok.1 ok
      refine ⟨r, found, fun scope items groups shows' =>
        ⟨_, ?_, fun none => ?_, shows'.window start count⟩⟩
      · exact (List.take_sublist _ _).trans (List.drop_sublist _ _)
      · cases some.symm.trans none
    · cases made
  · cases planned
    exact ⟨limited, ok, fun scope items groups shows' =>
      ⟨groups, List.Sublist.refl _, fun _ => rfl, shows'⟩⟩

/-- A `SELECT` with a select list shows a row for every group of rows of its tables, up to their
order, and with `LIMIT` for some of them. The columns are the names of the items, each once in the
order of the items. A row has one value in each, which is that of the last item of the name. So,
where all names differ, it has as many values as there are items, and each is that of its item. -/
theorem runStatement_items (c : Connection) (view : View) {s : Select} (nonempty : s.items ≠ [])
    {r : Relation} (shown : (c.runStatement view (.select s)).answer = .ok (.rows r)) :
    ∃ (source : Relation) (groups : List (List Record)),
      c.runStatement view (.select { s with items := [], orderBy := [], limit? := none }) =
        ⟨[], .ok (.rows source)⟩ ∧
      let qualified := decide (1 < s.tables.length)
      let scope : Scope := ⟨source.columns, qualified⟩
      groups.Subperm (s.groupsOf qualified source) ∧
      (s.limit? = none → groups.Perm (s.groupsOf qualified source)) ∧
      r.columns = (s.items.map outputName).eraseDups ∧
      r.table = groups.map (fun group => r.columns.map (namedValue scope s.items group)) ∧
      ((s.items.map outputName).Nodup → r.table = groups.map fun group =>
        s.items.map fun item => groupValue scope group item.1) := by
  rw [runStatement_select] at shown
  obtain ⟨_, selected, ⟨⟩⟩ := map_eq_ok.1 shown
  obtain ⟨plan, planned, found⟩ := bind_eq_ok.1 selected
  rw [Plan.ofSelect_eq] at planned
  obtain ⟨filtered, made, planned⟩ := bind_eq_ok.1 planned
  obtain ⟨tables, named, rfl⟩ := map_eq_ok.1 made
  obtain ⟨keys, -, planned⟩ := bind_eq_ok.1 planned
  obtain ⟨operated, planned, last⟩ := bind_eq_ok.1 planned
  obtain ⟨all, found, window⟩ := shows_limited last (mapError_eq_ok.1 found)
  obtain ⟨source, groups, scanned, perm, shows'⟩ := shows_operated nonempty planned found
  obtain ⟨groups', sub, whole, shows'⟩ := window _ _ _ shows'
  have everything : c.selected view { s with items := [], orderBy := [], limit? := none } =
      .ok source := by
    rw [selected_all, named]
    exact congrArg (Except.mapError Failure.error) scanned
  have columns : r.columns = (s.items.map outputName).eraseDups :=
    shows'.columns.trans (Query.addColumns_nil _)
  refine ⟨source, groups', runStatement_select_eq_rows.2 everything,
    sub.subperm.trans perm.subperm, fun unlimited => whole unlimited ▸ perm, columns,
    shows'.table, fun distinct => ?_⟩
  rw [shows'.table, columns, Query.eraseDups_of_nodup distinct]
  refine List.map_congr_left fun group _ => ?_
  rw [List.map_map]
  exact List.map_congr_left fun item mem => Query.namedValue_of_nodup distinct mem _ group

theorem runStatement_everything_twoTables (first second : List Int64) :
    runStatement ⟨"db", .default⟩ (Storage.get? (twoTables first second))
        (.select (.ofTwoTables [])) =
      ⟨[], .ok (.rows (Relation.join .standard none false false
        ⟨["t1.a"], first.map fun i => Dict.ofList [("t1.a", .int i)]⟩
        ⟨["t2.a"], second.map fun i => Dict.ofList [("t2.a", .int i)]⟩))⟩ := by
  have all : runStatement ⟨"db", .default⟩ (Storage.get? (twoTables first second))
      (.select (.ofTwoTables [])) = ⟨[], Except.map Answer.rows (Except.mapError Failure.error
        (relation ⟨"db", .default⟩ (Storage.get? (twoTables first second)) .ofTwoTables))⟩ :=
    runStatement_select _
  rw [all, relation_twoTables]
  rfl

theorem runStatement_items_alias :
    let c : Connection := ⟨"db", .default⟩
    let view := Storage.get? (twoTables [1, 3] [2])
    let s := Select.ofTwoTables
      [(.column ⟨some "t1", "a"⟩, none), (.column ⟨some "t2", "a"⟩, some "b")]
    let row (i j : Int64) : Record := .ofList [("a", .int i), ("b", .int j)]
    ∃ groups : List (List Record),
      c.runStatement view (.select s) = ⟨[], .ok (.rows ⟨["a", "b"], [row 1 2, row 3 2]⟩)⟩ ∧
      groups.map (fun group => s.items.map fun item =>
          groupValue ⟨["t1.a", "t2.a"], true⟩ group item.1) =
        [[.int 1, .int 2], [.int 3, .int 2]] := by
  intro c view s row
  have shown : c.runStatement view (.select s) =
      ⟨[], .ok (.rows ⟨["a", "b"], [row 1 2, row 3 2]⟩)⟩ := by
    have found : c.selected view s = _ :=
      selected_twoTables [1, 3] [2] (by decide) (by decide) rfl []
    exact runStatement_select_eq_rows.2 (found.trans (congrArg Except.ok (by decide)))
  obtain ⟨source, groups, everything, -, -, -, -, values⟩ :=
    c.runStatement_items view (List.cons_ne_nil _ _) (congrArg Effect.answer shown)
  cases everything.symm.trans (runStatement_everything_twoTables [1, 3] [2])
  refine ⟨groups, shown, (values (by decide)).symm.trans ?_⟩
  decide

/-- Columns of one name from two tables, of which the first one is lost. -/
theorem runStatement_items_collide :
    let c : Connection := ⟨"db", .default⟩
    let view := Storage.get? (twoTables [1] [2])
    let s := Select.ofTwoTables
      [(.column ⟨some "t1", "a"⟩, none), (.column ⟨some "t2", "a"⟩, none)]
    let joined : Record := .ofList [("t1.a", .int 1), ("t2.a", .int 2)]
    ∃ shown,
      c.runStatement view (.select { s with items := [] }) =
        ⟨[], .ok (.rows ⟨["t1.a", "t2.a"], [joined]⟩)⟩ ∧
      (s.items.map fun item => groupValue ⟨["t1.a", "t2.a"], true⟩ [joined] item.1) =
        [.int 1, .int 2] ∧
      c.runStatement view (.select s) = ⟨[], .ok (.rows shown)⟩ ∧
      shown.table = [[.int 2]] := by
  intro c view s joined
  have found : c.selected view s = _ := selected_twoTables [1] [2] (by decide) (by decide) rfl []
  refine ⟨_, ?_, by decide, runStatement_select_eq_rows.2 found, by decide⟩
  refine (runStatement_everything_twoTables [1] [2]).trans ?_
  exact congrArg (fun r : Relation => Effect.mk [] (.ok (.rows r))) (by decide)

end Connection

end SqlStore
