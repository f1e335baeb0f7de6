import SqlStore.Proofs.Execution.Window
import SqlStore.Proofs.Query.Join
import SqlStore.Proofs.Query.Ordering

namespace SqlStore

open Query (Precedes Relation SameUnder Scope StablySorted outputName)
open Sql (ColumnRef Direction Expr FromItem Select SelectItem limitArguments)

/-! ## Projecting sorted rows -/

namespace Query

open SqlStore.Query.Relation (outputColumn)

def shownValue (name : String) (row : Record) : Value :=
  (row.get? name).getD .null

def projectRow (items : List (ColumnRef × Option String)) (s : Scope) (row : Record) : Record :=
  Dict.ofList (items.map fun item => (outputColumn item, s.resolve item.1 row))

variable {items : List (ColumnRef × Option String)}

theorem shownValue_projectRow (distinct : (items.map outputColumn).Nodup)
    {item : ColumnRef × Option String} (mem : item ∈ items) (s : Scope) (row : Record) :
    shownValue (outputColumn item) (projectRow items s row) = s.resolve item.1 row := by
  have there : (projectRow items s row).get? (outputColumn item) =
      some (s.resolve item.1 row) := by
    refine Dict.get?_ofList_of_mem ?_ (List.mem_map.2 ⟨item, mem, rfl⟩)
    rw [List.map_map]
    exact distinct
  rw [shownValue, there]
  rfl

theorem resolve_unalias (distinct : (items.map outputColumn).Nodup)
    {item : ColumnRef × Option String} (mem : item ∈ items) {s : Scope}
    (finds : item.2 = none → s.key? ⟨none, item.1.name⟩ = s.key? item.1) (row : Record) :
    s.resolve (Plan.unalias items ⟨none, outputColumn item⟩) row = s.resolve item.1 row := by
  rw [Plan.unalias, if_neg (by simp)]
  cases found : items.find? fun other => other.2 == some (outputColumn item) with
  | some other =>
      have named : other.2 = some (outputColumn item) := by simpa using List.find?_some found
      have same : outputColumn other = outputColumn item := by rw [outputColumn, named]; rfl
      have inj := List.inj_on_of_nodup_map distinct
      rw [inj (List.mem_of_find?_eq_some found) mem same]
  | none =>
      have noAlias : item.2 = none := by
        have other := List.find?_eq_none.1 found item mem
        cases written : item.2 with
        | none => rfl
        | some name => simp [outputColumn, written] at other
      have name : outputColumn item = item.1.name := by rw [outputColumn, noAlias]; rfl
      rw [name]
      exact congrArg (fun key? => (key?.bind row.get?).getD .null) (finds noAlias)

theorem project_order (distinct : (items.map outputColumn).Nodup) (r : Relation) (qualified : Bool)
    {keys : List (String × Direction)} {column : String → ColumnRef}
    (shown : ∀ key ∈ keys, ∃ item ∈ items, outputColumn item = key.1 ∧
      ∀ row, Scope.resolve ⟨r.columns, qualified⟩ (column key.1) row =
        Scope.resolve ⟨r.columns, qualified⟩ item.1 row) :
    (r.order (keys.map fun key => (column key.1, key.2)) qualified).project items qualified =
      ⟨(r.project items qualified).columns,
        sortRows shownValue keys (r.project items qualified).rows⟩ := by
  let s : Scope := ⟨r.columns, qualified⟩
  have values (row : Record) : (keys.map fun key => s.resolve (column key.1) row) =
      keys.map fun key => shownValue key.1 (projectRow items s row) := by
    refine List.map_congr_left fun key mem => ?_
    obtain ⟨item, mem', name, same⟩ := shown key mem
    rw [← name, shownValue_projectRow distinct mem' s row, name]
    exact same row
  have compared (a b : Record) :
      compareRows s.resolve (keys.map fun key => (column key.1, key.2)) a b =
        compareRows shownValue keys (projectRow items s a) (projectRow items s b) := by
    rw [compareRows, compareRows, ← values, ← values, List.map_map, List.map_map, List.map_map]
    rfl
  -- The keys have the same values on both sides, so projecting the sorted rows sorts what is shown.
  refine congrArg (Relation.mk _) ?_
  change (r.order _ qualified).rows.map (projectRow items s) =
    sortRows shownValue keys (r.rows.map (projectRow items s))
  rw [Relation.order_rows, sortRows, sortRows, stableSort_map]
  simp only [compared, s]

end Query

/-! ## What a SELECT shows -/

theorem Plan.listed_nonempty {s : Select} (nonempty : s.items ≠ [])
    {columns : List (ColumnRef × Option String)}
    (listed : s.items.mapM selectedColumn = .ok columns) : ¬ columns.isEmpty := by
  rw [List.isEmpty_iff, ← List.length_eq_zero_iff, length_of_mapM_eq_ok listed]
  exact mt List.length_eq_zero_iff.1 nonempty

namespace Connection

variable {c : Connection} {view : View} {s : Select}

theorem relation_sorted (source : Plan) (keys : List (ColumnRef × Direction)) (qualified : Bool) :
    c.relation view (if keys.isEmpty then source else .order source keys qualified) =
      (c.relation view source).map fun r => r.order keys qualified := by
  cases keys with
  | nil =>
      change c.relation view source = _
      simp only [Relation.order_nil]
      cases c.relation view source <;> rfl
  | cons key keys =>
      change c.relation view (.order source (key :: keys) qualified) = _
      rw [relation]
      cases c.relation view source <;> rfl

theorem selected_operated (unlimited : s.limit? = none) {keys : List (ColumnRef × Direction)}
    (sorting : s.orderBy.mapM Plan.sortColumn = .ok keys) :
    c.selected view s = (do
      let tables ← Plan.ofTables s.tables
      let plan ← Plan.operated s (decide (1 < s.tables.length)) (Plan.filtered s tables) keys
      (c.relation view plan).mapError Failure.error) := by
  have last : Plan.limited s = .ok := funext fun shown => by rw [Plan.limited, unlimited]
  rw [selected, Plan.ofSelect_eq, sorting, last]
  cases Plan.ofTables s.tables with
  | error e => rfl
  | ok tables =>
      change (Plan.operated s _ (Plan.filtered s tables) keys >>= pure) >>= _ = _
      rw [bind_pure]
      rfl

theorem selected_projected (plain : ∀ item ∈ s.items, Plan.isCall item = false)
    (nonempty : s.items ≠ []) (unlimited : s.limit? = none)
    {keys : List (ColumnRef × Direction)} (sorting : s.orderBy.mapM Plan.sortColumn = .ok keys) :
    c.selected view s = (do
      let tables ← Plan.ofTables s.tables
      let items ← s.items.mapM Plan.selectedColumn
      let r ← (c.relation view (Plan.filtered s tables)).mapError Failure.error
      return (r.order (keys.map fun key => (Plan.unalias items key.1, key.2))
        (decide (1 < s.tables.length))).project items (decide (1 < s.tables.length))) := by
  have noCall : s.items.any Plan.isCall = false := List.any_eq_false.2 (by simpa using plain)
  rw [selected_operated unlimited sorting]
  cases Plan.ofTables s.tables with
  | error e => rfl
  | ok tables =>
      change (Plan.operated s _ (Plan.filtered s tables) keys >>= _) = _
      rw [Plan.operated, noCall, if_neg Bool.false_ne_true, Plan.projectSorted]
      cases listed : s.items.mapM Plan.selectedColumn with
      | error e => rfl
      | ok items =>
          change (c.relation view (if items.isEmpty then _ else _)).mapError _ = _
          rw [if_neg (Plan.listed_nonempty nonempty listed), relation, relation_sorted]
          change _ = (c.relation view (Plan.filtered s tables)).mapError Failure.error >>= _
          cases c.relation view (Plan.filtered s tables) <;> rfl

theorem selected_all : c.selected view { s with items := [], orderBy := [], limit? := none } = (do
      let tables ← Plan.ofTables s.tables
      (c.relation view (Plan.filtered s tables)).mapError Failure.error) := by
  rw [selected, Plan.ofSelect]
  cases Plan.ofTables s.tables <;> rfl

end Connection

/-! ## Sort keys that name what is shown -/

namespace Sql.Select

def sortedBy (s : Select) (keys : List (String × Direction)) : Select :=
  { s with orderBy := keys.map fun key => (.column ⟨none, key.1⟩, key.2) }

/-- Whether a name that is no alias finds the column that is shown under it, among the columns of
the tables. -/
def FindsShown (s : Select) (columns : List String) (name : String) : Prop :=
  ∀ column : ColumnRef, (.column column, none) ∈ s.items → column.name = name →
    Scope.key? ⟨columns, decide (1 < s.tables.length)⟩ ⟨none, name⟩ =
      Scope.key? ⟨columns, decide (1 < s.tables.length)⟩ column

theorem findsShown_of_unqualified {s : Select} (unqualified : 1 < s.tables.length →
      ∀ column : ColumnRef, (.column column, none) ∈ s.items → column.table? = none)
    (columns : List String) (name : String) : s.FindsShown columns name := by
  rintro ⟨table?, _⟩ item rfl
  by_cases several : 1 < s.tables.length
  · obtain rfl : table? = none := unqualified several _ item
    rfl
  · rw [decide_eq_false several]
    rfl

end Sql.Select

namespace Plan

theorem mapM_sortColumn (keys : List (String × Direction)) :
    (keys.map fun key => (Expr.column ⟨none, key.1⟩, key.2)).mapM sortColumn =
      .ok (keys.map fun key => (⟨none, key.1⟩, key.2)) := by
  refine mapM_eq_ok.2 ?_
  rw [List.map_map, List.map_map]
  rfl

theorem selectedColumn_eq_ok {item : SelectItem} {selected : ColumnRef × Option String}
    (ok : selectedColumn item = .ok selected) : item = (.column selected.1, selected.2) := by
  obtain ⟨e, written⟩ := item
  cases e with
  | column c =>
      cases ok
      rfl
  | _ => cases ok

end Plan

theorem Sql.Select.project_order {s : Select} {items : List (ColumnRef × Option String)}
    (listed : s.items.mapM Plan.selectedColumn = .ok items)
    (distinct : (s.items.map outputName).Nodup) {keys : List (String × Direction)}
    (named : ∀ key ∈ keys, key.1 ∈ s.items.map outputName) (r : Relation)
    (finds : ∀ key ∈ keys, s.FindsShown r.columns key.1) :
    (r.order (keys.map fun key => (Plan.unalias items ⟨none, key.1⟩, key.2))
        (decide (1 < s.tables.length))).project items (decide (1 < s.tables.length)) =
      ⟨(r.project items (decide (1 < s.tables.length))).columns, Query.sortRows Query.shownValue keys
        (r.project items (decide (1 < s.tables.length))).rows⟩ := by
  have names : items.map Relation.outputColumn = s.items.map outputName := by
    refine map_eq_of_mapM_eq_ok (fun item selected ok => ?_) listed
    rw [Plan.selectedColumn_eq_ok ok]
    rfl
  rw [← names] at distinct named
  let qualified := decide (1 < s.tables.length)
  let column (name : String) : ColumnRef := Plan.unalias items ⟨none, name⟩
  have shown : ∀ key ∈ keys, ∃ item ∈ items, Relation.outputColumn item = key.1 ∧
      ∀ row, Scope.resolve ⟨r.columns, qualified⟩ (column key.1) row =
        Scope.resolve ⟨r.columns, qualified⟩ item.1 row := by
    intro key mem
    obtain ⟨item, mem', name⟩ := List.mem_map.1 (named key mem)
    refine ⟨item, mem', name, fun row => ?_⟩
    rw [← name]
    refine Query.resolve_unalias distinct mem' (fun noAlias => ?_) row
    obtain ⟨written, mem'', ok⟩ := exists_of_mapM_eq_ok listed mem'
    rw [Plan.selectedColumn_eq_ok ok, noAlias] at mem''
    have plainName : item.1.name = key.1 := by
      rw [← name, Relation.outputColumn, noAlias]
      rfl
    rw [plainName]
    exact finds key mem item.1 mem'' plainName
  have projected := Query.project_order distinct r qualified shown
  exact projected

theorem Connection.selected_cases (c : Connection) (view : View) {s : Select}
    (plain : ∀ item ∈ s.items, Plan.isCall item = false) (nonempty : s.items ≠ [])
    (unsorted : s.orderBy = []) (unlimited : s.limit? = none) (keys : List (String × Direction)) :
    (∃ e, c.selected view s = .error e ∧ c.selected view (s.sortedBy keys) = .error e) ∨
    ∃ items r, s.items.mapM Plan.selectedColumn = .ok items ∧
      c.selected view { s with items := [] } = .ok r ∧
      c.selected view s = .ok (r.project items (decide (1 < s.tables.length))) ∧
      c.selected view (s.sortedBy keys) = .ok
        ((r.order (keys.map fun key => (Plan.unalias items ⟨none, key.1⟩, key.2))
          (decide (1 < s.tables.length))).project items (decide (1 < s.tables.length))) := by
  let qualified := decide (1 < s.tables.length)
  let shown (keys : List (ColumnRef × Direction)) : Except Error Relation := do
    let tables ← Plan.ofTables s.tables
    let items ← s.items.mapM Plan.selectedColumn
    let r ← (c.relation view (Plan.filtered s tables)).mapError Failure.error
    return (r.order (keys.map fun key => (Plan.unalias items key.1, key.2)) qualified).project items
      qualified
  have projected : c.selected view s = shown [] := by
    refine selected_projected plain nonempty unlimited ?_
    rw [unsorted]
    rfl
  have sorted : c.selected view (s.sortedBy keys) =
      shown (keys.map fun key => (⟨none, key.1⟩, key.2)) :=
    selected_projected (s := s.sortedBy keys) plain nonempty unlimited (Plan.mapM_sortColumn keys)
  have all : c.selected view { s with items := [] } = (do
      let tables ← Plan.ofTables s.tables
      (c.relation view (Plan.filtered s tables)).mapError Failure.error) := by
    rw [← selected_all, unsorted, unlimited]
  rw [projected, sorted, all]
  simp only [shown, List.map_map, List.map_nil, Relation.order_nil]
  cases Plan.ofTables s.tables with
  | error e => exact .inl ⟨e, rfl, rfl⟩
  | ok tables =>
      cases s.items.mapM Plan.selectedColumn with
      | error e => exact .inl ⟨e, rfl, rfl⟩
      | ok items =>
          dsimp only [bind, Except.bind]
          cases (c.relation view (Plan.filtered s tables)).mapError Failure.error with
          | error e => exact .inl ⟨e, rfl, rfl⟩
          | ok r => exact .inr ⟨items, r, rfl, rfl, rfl, rfl⟩

theorem Connection.selected_sorted (c : Connection) (view : View) {s : Select}
    {keys : List (String × Direction)} (plain : ∀ item ∈ s.items, Plan.isCall item = false)
    (nonempty : s.items ≠ []) (distinct : (s.items.map outputName).Nodup)
    (named : ∀ key ∈ keys, key.1 ∈ s.items.map outputName) (unsorted : s.orderBy = [])
    (unlimited : s.limit? = none) :
    (∃ e, c.selected view s = .error e ∧ c.selected view (s.sortedBy keys) = .error e) ∨
    ∃ source shown, c.selected view { s with items := [] } = .ok source ∧
      c.selected view s = .ok shown ∧
      ((∀ key ∈ keys, s.FindsShown source.columns key.1) →
        c.selected view (s.sortedBy keys) =
          .ok ⟨shown.columns, Query.sortRows Query.shownValue keys shown.rows⟩) := by
  obtain failed | ⟨items, r, listed, all, shown, sorted⟩ :=
    c.selected_cases view plain nonempty unsorted unlimited keys
  · exact .inl failed
  · refine .inr ⟨r, _, all, shown, fun finds => ?_⟩
    rw [sorted, Sql.Select.project_order listed distinct named r finds]

/-- A `SELECT` without aggregates that is sorted by output names fails as it does unsorted.
Otherwise it shows the same rows, stably sorted by the values that they show under these names, as
far as those are consistently ordered and the names find the columns that are shown; and with
`LIMIT` a part of these. -/
theorem Connection.runStatement_sorted (c : Connection) (view : View) {s : Select}
    {keys : List (String × Direction)} (plain : ∀ item ∈ s.items, Plan.isCall item = false)
    (nonempty : s.items ≠ []) (distinct : (s.items.map outputName).Nodup)
    (named : ∀ key ∈ keys, key.1 ∈ s.items.map outputName) (unsorted : s.orderBy = [])
    (unlimited : s.limit? = none) :
    (∀ e, (c.runStatement view (.select s)).answer = .error e →
      c.runStatement view (.select (s.sortedBy keys)) = ⟨[], .error e⟩) ∧
    ∀ shown, (c.runStatement view (.select s)).answer = .ok (.rows shown) →
      ∃ source, c.runStatement view (.select { s with items := [] }) = ⟨[], .ok (.rows source)⟩ ∧
      ((∀ key ∈ keys, Value.Consistent (shown.rows.map (Query.shownValue key.1))) →
        (∀ key ∈ keys, s.FindsShown source.columns key.1) →
        ∃ rows, StablySorted Query.shownValue keys shown.rows rows ∧
          c.runStatement view (.select (s.sortedBy keys)) =
            ⟨[], .ok (.rows ⟨shown.columns, rows⟩)⟩ ∧
          ∀ offset < 2 ^ 63, ∀ count < 2 ^ 63,
            c.runStatement view (.select
                { s.sortedBy keys with limit? := some (limitArguments offset count) }) =
              ⟨[], .ok (.rows ⟨shown.columns, (rows.drop offset).take count⟩)⟩) := by
  have limited (offset : Nat) (small : offset < 2 ^ 63) (count : Nat) (small' : count < 2 ^ 63) :
      c.selected view { s.sortedBy keys with limit? := some (limitArguments offset count) } =
        (c.selected view (s.sortedBy keys)).map fun r => (r.offset offset).limit count :=
    selected_limited (s := s.sortedBy keys) unlimited small small'
  simp only [runStatement_select]
  obtain ⟨e, failed, failed'⟩ | ⟨source, shown, all, shows, sorted⟩ :=
    c.selected_sorted view plain nonempty distinct named unsorted unlimited
  · rw [failed, failed']
    constructor
    · rintro _ ⟨⟩
      rfl
    · rintro _ ⟨⟩
  · rw [shows, all]
    constructor
    · rintro _ ⟨⟩
    · rintro _ ⟨⟩
      refine ⟨source, rfl, fun consistent finds => ?_⟩
      refine ⟨_, Query.sortRows_stable consistent, ?_, fun offset small count small' => ?_⟩
      · rw [sorted finds]
        rfl
      · rw [limited offset small count small', sorted finds]
        rfl

/-- Over one table, and where no column is selected under the name of its table, every key finds
what is shown. -/
theorem Connection.runStatement_sorted_unqualified (c : Connection) (view : View) {s : Select}
    {keys : List (String × Direction)} (plain : ∀ item ∈ s.items, Plan.isCall item = false)
    (nonempty : s.items ≠ []) (distinct : (s.items.map outputName).Nodup)
    (named : ∀ key ∈ keys, key.1 ∈ s.items.map outputName) (unsorted : s.orderBy = [])
    (unlimited : s.limit? = none) (unqualified : 1 < s.tables.length →
      ∀ column : ColumnRef, (.column column, none) ∈ s.items → column.table? = none)
    {shown : Relation}
    (answered : (c.runStatement view (.select s)).answer = .ok (.rows shown))
    (consistent : ∀ key ∈ keys, Value.Consistent (shown.rows.map (Query.shownValue key.1))) :
    ∃ rows, StablySorted Query.shownValue keys shown.rows rows ∧
      c.runStatement view (.select (s.sortedBy keys)) =
        ⟨[], .ok (.rows ⟨shown.columns, rows⟩)⟩ := by
  rw [runStatement_select] at answered
  obtain ⟨e, failed, -⟩ | ⟨source, shown', -, shows, sorted⟩ :=
    c.selected_sorted view plain nonempty distinct named unsorted unlimited
  · rw [failed] at answered
    cases answered
  · rw [shows] at answered
    cases answered
    refine ⟨_, Query.sortRows_stable consistent, ?_⟩
    rw [runStatement_select, sorted fun key _ =>
      Sql.Select.findsShown_of_unqualified unqualified source.columns key.1]
    rfl

/-! ### Two joined tables -/

def twoTables (first second : List Int64) : Memory :=
  let c : Connection := ⟨"db", .default⟩
  let t (name : String) : Table := ⟨name, [⟨"a", .integer, 0, none, none⟩]⟩
  ⟨.ofList [(c.definitionKey ⟨none, "t1"⟩, (t "t1").definitionText),
    (c.rowsKey ⟨none, "t1"⟩, Row.storedText (first.map fun i => [.int i])),
    (c.definitionKey ⟨none, "t2"⟩, (t "t2").definitionText),
    (c.rowsKey ⟨none, "t2"⟩, Row.storedText (second.map fun i => [.int i]))]⟩

def Sql.Select.ofTwoTables (items : List SelectItem) : Select :=
  ⟨items, [⟨"t1", none, none⟩, ⟨"t2", none, some ⟨.inner, none⟩⟩], none, [], [], none⟩

def Plan.ofTwoTables : Plan :=
  .join (.scan ⟨none, "t1"⟩ (some "t1")) (.scan ⟨none, "t2"⟩ (some "t2")) none false false

theorem Connection.relation_scan_twoTables (first second : List Int64) :
    relation ⟨"db", .default⟩ (Storage.get? (twoTables first second))
        (.scan ⟨none, "t1"⟩ (some "t1")) =
      .ok ⟨["t1.a"], first.map fun i => Dict.ofList [("t1.a", .int i)]⟩ ∧
    relation ⟨"db", .default⟩ (Storage.get? (twoTables first second))
        (.scan ⟨none, "t2"⟩ (some "t2")) =
      .ok ⟨["t2.a"], second.map fun i => Dict.ofList [("t2.a", .int i)]⟩ := by
  let c : Connection := ⟨"db", .default⟩
  let t (name : String) : Table := ⟨name, [⟨"a", .integer, 0, none, none⟩]⟩
  let stored (numbers : List Int64) : List Row := numbers.map fun i => [.int i]
  let entries : List (String × String) :=
    [(c.definitionKey ⟨none, "t1"⟩, (t "t1").definitionText),
      (c.rowsKey ⟨none, "t1"⟩, Row.storedText (stored first)),
      (c.definitionKey ⟨none, "t2"⟩, (t "t2").definitionText),
      (c.rowsKey ⟨none, "t2"⟩, Row.storedText (stored second))]
  have distinct : (entries.map (·.1)).Nodup := by
    change [c.definitionKey ⟨none, "t1"⟩, c.rowsKey ⟨none, "t1"⟩, c.definitionKey ⟨none, "t2"⟩,
      c.rowsKey ⟨none, "t2"⟩].Nodup
    decide
  have entry {key text : String} (mem : (key, text) ∈ entries) :
      Storage.get? (twoTables first second) key = some text :=
    Dict.get?_ofList_of_mem distinct mem
  have exact (numbers : List Int64) : ∀ row ∈ stored numbers, ∀ v ∈ row, v.exact := by
    simp [stored, Value.exact]
  have scanned₁ := scan_of_exact (c := c) (n := ⟨none, "t1"⟩) (t := t "t1") rfl (exact first)
    (entry (by simp [entries])) (entry (by simp [entries])) (some "t1")
  have scanned₂ := scan_of_exact (c := c) (n := ⟨none, "t2"⟩) (t := t "t2") rfl (exact second)
    (entry (by simp [entries])) (entry (by simp [entries])) (some "t2")
  rw [relation, relation, scanned₁, scanned₂]
  simp only [stored, List.map_map]
  exact ⟨rfl, rfl⟩

theorem Connection.relation_twoTables (first second : List Int64) :
    relation ⟨"db", .default⟩ (Storage.get? (twoTables first second)) .ofTwoTables =
      .ok (Relation.join .standard none false false
        ⟨["t1.a"], first.map fun i => Dict.ofList [("t1.a", .int i)]⟩
        ⟨["t2.a"], second.map fun i => Dict.ofList [("t2.a", .int i)]⟩) := by
  obtain ⟨scanned₁, scanned₂⟩ := relation_scan_twoTables first second
  rw [Plan.ofTwoTables, relation, scanned₁, scanned₂]
  rfl

theorem Connection.selected_twoTables (first second : List Int64) {items : List SelectItem}
    (plain : ∀ item ∈ items, Plan.isCall item = false) (nonempty : items ≠ [])
    {columns : List (ColumnRef × Option String)}
    (listed : items.mapM Plan.selectedColumn = .ok columns) (keys : List (String × Direction)) :
    selected ⟨"db", .default⟩ (Storage.get? (twoTables first second))
        ((Select.ofTwoTables items).sortedBy keys) =
      .ok (((Relation.join .standard none false false
        ⟨["t1.a"], first.map fun i => Dict.ofList [("t1.a", .int i)]⟩
        ⟨["t2.a"], second.map fun i => Dict.ofList [("t2.a", .int i)]⟩).order
          (keys.map fun key => (Plan.unalias columns ⟨none, key.1⟩, key.2)) true).project columns
            true) := by
  have tables : Plan.ofTables (Select.ofTwoTables items).tables = .ok .ofTwoTables := rfl
  rw [selected_projected (s := (Select.ofTwoTables items).sortedBy keys) plain nonempty rfl
    (Plan.mapM_sortColumn keys)]
  change (Plan.ofTables (Select.ofTwoTables items).tables >>= _) = _
  rw [tables]
  change (items.mapM Plan.selectedColumn >>= _) = _
  rw [listed]
  change ((relation _ _ .ofTwoTables).mapError Failure.error >>= _) = _
  rw [relation_twoTables, List.map_map]
  rfl

theorem Connection.runStatement_sorted_join :
    let c : Connection := ⟨"db", .default⟩
    let view := Storage.get? (twoTables [1, 2] [5, 3])
    let s := Select.ofTwoTables
      [(.column ⟨some "t1", "a"⟩, none), (.column ⟨some "t2", "a"⟩, some "b")]
    let keys : List (String × Direction) := [("b", .asc), ("a", .desc)]
    let row (a b : Int64) : Record := .ofList [("a", .int a), ("b", .int b)]
    let shown := [row 1 5, row 1 3, row 2 5, row 2 3]
    let sorted := [row 2 3, row 1 3, row 2 5, row 1 5]
    (c.runStatement view (.select s)).answer = .ok (.rows ⟨["a", "b"], shown⟩) ∧
      StablySorted Query.shownValue keys shown sorted ∧
      c.runStatement view (.select (s.sortedBy keys)) = ⟨[], .ok (.rows ⟨["a", "b"], sorted⟩)⟩ := by
  intro c view s keys row shown sorted
  have found (keys : List (String × Direction)) : c.selected view (s.sortedBy keys) = _ :=
    selected_twoTables [1, 2] [5, 3] (by decide) (by decide) rfl keys
  have unsorted : c.selected view s = .ok ⟨["a", "b"], shown⟩ :=
    (found []).trans (congrArg Except.ok (by decide))
  have ordered : c.selected view (s.sortedBy keys) = .ok ⟨["a", "b"], sorted⟩ :=
    (found keys).trans (congrArg Except.ok (by decide))
  have answered : (c.runStatement view (.select s)).answer = .ok (.rows ⟨["a", "b"], shown⟩) := by
    rw [runStatement_select, unsorted]
    rfl
  have finds : ∀ key ∈ keys, s.FindsShown ["t1.a", "t2.a"] key.1 := by
    rintro key - column item name
    have qualified : column = ⟨some "t1", "a"⟩ := by simpa [s, Select.ofTwoTables] using item
    rw [← name, qualified]
    decide
  have named : ∀ key ∈ keys, key.1 ∈ s.items.map outputName := by decide
  obtain ⟨source, before, sorts⟩ := (c.runStatement_sorted view (by decide) (by decide) (by decide)
    named rfl rfl).2 _ answered
  have all : c.runStatement view (.select { s with items := [] }) =
      ⟨[], Except.map Answer.rows (Except.mapError Failure.error (c.relation view .ofTwoTables))⟩ :=
    runStatement_select _
  rw [all, relation_twoTables] at before
  cases before
  obtain ⟨rows, stable, run, -⟩ := sorts (by decide) finds
  rw [runStatement_select, ordered] at run
  cases run
  refine ⟨answered, stable, ?_⟩
  rw [runStatement_select, ordered]
  rfl

/-- The key is the name of the column that is shown, but it finds the column of the first table. -/
theorem Connection.runStatement_sorted_hidden :
    let c : Connection := ⟨"db", .default⟩
    let view := Storage.get? (twoTables [1] [2, 1])
    let s := Select.ofTwoTables [(.column ⟨some "t2", "a"⟩, none)]
    let keys : List (String × Direction) := [("a", .asc)]
    let row (i : Int64) : Record := .ofList [("a", .int i)]
    s.items.map outputName = keys.map Prod.fst ∧
      (∀ key ∈ keys, Value.Consistent ([row 2, row 1].map (Query.shownValue key.1))) ∧
      c.runStatement view (.select s) = ⟨[], .ok (.rows ⟨["a"], [row 2, row 1]⟩)⟩ ∧
      c.runStatement view (.select (s.sortedBy keys)) =
        ⟨[], .ok (.rows ⟨["a"], [row 2, row 1]⟩)⟩ ∧
      ¬ StablySorted Query.shownValue keys [row 2, row 1] [row 2, row 1] := by
  intro c view s keys row
  have found (keys : List (String × Direction)) : c.selected view (s.sortedBy keys) = _ :=
    selected_twoTables [1] [2, 1] (by decide) (by decide) rfl keys
  have unsorted : c.selected view s = .ok ⟨["a"], [row 2, row 1]⟩ :=
    (found []).trans (congrArg Except.ok (by decide))
  have ordered : c.selected view (s.sortedBy keys) = .ok ⟨["a"], [row 2, row 1]⟩ :=
    (found keys).trans (congrArg Except.ok (by decide))
  refine ⟨rfl, by decide, ?_, ?_, ?_⟩
  · rw [runStatement_select, unsorted]
    rfl
  · rw [runStatement_select, ordered]
    rfl
  · intro sorted
    have two : Query.shownValue "a" (row 2) = .int 2 := by decide
    have one : Query.shownValue "a" (row 1) = .int 1 := by decide
    have differ : ¬ (Query.shownValue "a" (row 2)).same (Query.shownValue "a" (row 1)) := by
      rw [two, one]
      decide
    have first : Precedes Query.shownValue (row 2) (row 1) [("a", .asc)] ∨
        SameUnder Query.shownValue keys (row 2) (row 1) :=
      List.rel_of_pairwise_cons sorted.ordered (List.mem_singleton.2 rfl)
    rcases first with before | same
    · cases before with
      | first below =>
          change (Query.shownValue "a" (row 2)).Below (Query.shownValue "a" (row 1)) at below
          rw [two, one] at below
          cases below with
          | int lt => exact absurd lt (by decide)
      | later same _ => exact differ same
    · exact differ (same ("a", .asc) (List.mem_singleton.2 rfl))

end SqlStore
