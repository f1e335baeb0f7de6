import SqlStore.Proofs.Execution.Given
import SqlStore.Proofs.Execution.Invariant

namespace SqlStore

open Query (Relation)
open Sql (ColumnDecl Expr Select Statement)

/-! ## The rows that are given -/

def Sql.Expr.given : Expr → Value
  | .literal l => l.value
  | _ => .null

def Call.given (call : Call) : Except Error Answer → List GivenRow
  | .error _ => []
  | .ok _ => match call.request.statement with
    | .ok (.insert _ columns? rows) =>
        rows.map fun row => ⟨call.config.numericPolicy, columns?, row.map Expr.given⟩
    | _ => []

def givenRows (calls : List Call) (answers : List (Except Error Answer)) : List GivenRow :=
  (List.zipWith Call.given calls answers).flatten

def Sql.Select.everything (name : String) : Select where
  items := []
  tables := [⟨name, none, none⟩]
  where? := none
  groupBy := []
  orderBy := []
  limit? := none

/-! ## A table with its rows -/

namespace Connection

variable {c : Connection} {view : View} {name : String} {n : TableName} {t : Table}
  {stored : List Row}

theorem updateAll_storeRows (c : Connection) (view : View) (n : TableName) (rows : List Row) :
    updateAll view [c.storeRows n rows] (c.rowsKey n) = some (Row.storedText rows) :=
  if_pos rfl

theorem runStatement_everything (named : TableName.read? name = some n)
    (found : c.table? view n = .ok (some t)) (read : c.rows view n = .ok stored) :
    c.runStatement view (.select (.everything name)) =
      ⟨[], .ok (.rows ⟨t.columns.map Column.name,
        stored.map (t.recordOf none c.config.numericPolicy)⟩)⟩ := by
  have scanned : c.scan view n none = .ok ⟨t.columnNames none,
      stored.map (t.recordOf none c.config.numericPolicy)⟩ := by
    rw [Connection.scan, Connection.table_eq_ok.2 found, read]
    rfl
  have planned : Plan.ofStatement (.select (.everything name)) = .ok (.scan n none) := by
    simp only [Plan.ofStatement, Plan.ofSelect, Sql.Select.everything, Plan.ofTables, Plan.ofTable,
      TableName.read_eq_ok.2 named]
    rfl
  rw [Connection.runStatement, planned]
  simp only [Connection.runPlan, Connection.relation, scanned]
  rfl

theorem runStatement_createTable (named : TableName.read? name = some n)
    {declared : List ColumnDecl} {answer : Answer}
    (ok : (c.runStatement view (.createTable name declared)).answer = .ok answer) :
    ∃ t, Plan.declaredTable n declared = .ok t ∧ view (c.definitionKey n) = none ∧
      let view' := updateAll view (c.runStatement view (.createTable name declared)).writes
      c.table? view' n = .ok (some t) ∧ view' (c.rowsKey n) = view (c.rowsKey n) := by
  obtain ⟨plan, built⟩ := ofStatement_of_ok ok
  obtain ⟨n', named', rest⟩ := bind_eq_ok.1 built
  obtain ⟨t, made, rest⟩ := bind_eq_ok.1 rest
  obtain rfl := pure_eq_ok.1 rest
  obtain rfl : n = n' := Option.some.inj (named.symm.trans (TableName.read_eq_ok.1 named'))
  obtain ⟨ws, change, ran, writes, -⟩ := runStatement_command_ok built ok
  obtain ⟨absent, checked, rfl, -⟩ := createTable_eq_ok.1 ran
  refine ⟨t, made, table?_eq_none.1 absent, ?_⟩
  rw [writes]
  constructor
  · have stored : updateAll view [.set (c.definitionKey n) t.definitionText] (c.definitionKey n) =
        some t.definitionText := if_pos rfl
    rw [table?_definitionText checked stored, ← (Plan.declaredTable_eq_ok made).2.1]
  · exact (Write.set _ _).update_of_ne (definitionKey_ne_rowsKey n n).symm

theorem serve_everything {σ : Type} [Storage σ] {s : σ} (named : TableName.read? name = some n)
    (found : c.table? (Storage.get? s) n = .ok (some t))
    (read : c.rows (Storage.get? s) n = .ok stored) {r : Request}
    (selects : r.statement = .ok (.select (.everything name))) :
    (c.serve s r).1 = .ok (.rows ⟨t.columns.map Column.name,
      stored.map (t.recordOf none c.config.numericPolicy)⟩) := by
  rw [serve_eq_commit, effect, selects]
  simp only [runStatement_everything named found read]
  rfl

end Connection

/-- A table that is there and has the given stored rows, which fit it. -/
structure Stocked (c : Connection) (view : View) (n : TableName) (t : Table) (stored : List Row) :
    Prop where
  found : c.table? view n = .ok (some t)
  noFloat : t.NoFloat
  read : c.rows view n = .ok stored
  fit : ∀ row ∈ stored, t.FitsRow row

/-- Every table of a store that sessions without binary64 columns reach is there with its rows. -/
theorem Consistent.stocked {c : Connection} {view : View} (consistent : Consistent c view)
    {n : TableName} {t : Table} (found : c.table? view n = .ok (some t)) :
    ∃ stored, Stocked c view n t stored := by
  obtain ⟨stored, read, fit⟩ := consistent.rows found
  exact ⟨stored, found, consistent.noFloat found, read, fit⟩

theorem constant_eq_ok {e : Expr} {v : Value} (ok : Plan.constant e = .ok v) : v = e.given := by
  unfold Plan.constant at ok
  split at ok
  · exact (Except.ok.inj ok).symm
  · cases ok

def Constants (rows : List (List Expr)) : Prop :=
  ∀ row ∈ rows, ∀ e ∈ row, Plan.constant e = .ok e.given

theorem constants_eq_ok_iff {rows : List (List Expr)} {values : List (List Value)} :
    (rows.mapM fun row => row.mapM Plan.constant) = .ok values ↔
      Constants rows ∧ values = rows.map fun row => row.map Expr.given := by
  have single (row : List Expr) (vs : List Value) : row.mapM Plan.constant = .ok vs ↔
      (∀ e ∈ row, Plan.constant e = .ok e.given) ∧ vs = row.map Expr.given :=
    mapM_eq_ok_map fun e v ok => constant_eq_ok ok
  rw [mapM_eq_ok_map fun row vs ok => ((single row vs).1 ok).2]
  refine and_congr_left fun _ => forall₂_congr fun row _ => ?_
  rw [single, and_iff_left rfl]

theorem constants_eq_ok {rows : List (List Expr)} {values : List (List Value)}
    (ok : (rows.mapM fun row => row.mapM Plan.constant) = .ok values) :
    values = rows.map fun row => row.map Expr.given :=
  (constants_eq_ok_iff.1 ok).2

namespace Connection

variable {c : Connection} {view : View} {name : String} {n : TableName} {t : Table}
  {stored new : List Row} {columns? : Option (List String)} {rows : List (List Expr)}

theorem runStatement_insert_eq_ok (named : TableName.read? name = some n)
    (found : c.table? view n = .ok (some t)) (read : c.rows view n = .ok stored) {answer : Answer}
    {ws : List Write} : c.runStatement view (.insert name columns? rows) = ⟨ws, .ok answer⟩ ↔
      Constants rows ∧ ∃ new,
        (rows.mapM fun row => t.newRow c.config.numericPolicy columns? (row.map Expr.given))
          = .ok new ∧ ws = [c.storeRows n (stored ++ new)] ∧
          answer = .changed (.inserted rows.length) := by
  constructor
  · intro ran
    have ok : (c.runStatement view (.insert name columns? rows)).answer = .ok answer := by rw [ran]
    obtain ⟨plan, built⟩ := ofStatement_of_ok ok
    obtain ⟨n', named', rest⟩ := bind_eq_ok.1 built
    obtain ⟨values, constants, made⟩ := bind_eq_ok.1 rest
    obtain rfl := pure_eq_ok.1 made
    obtain rfl : n = n' := Option.some.inj (named.symm.trans (TableName.read_eq_ok.1 named'))
    obtain ⟨constant, rfl⟩ := constants_eq_ok_iff.1 constants
    obtain ⟨ws', change, ran', writes, rfl⟩ := runStatement_command_ok built ok
    obtain ⟨t', stored', new, found', read', made, rfl, rfl⟩ := insert_eq_ok.1 ran'
    cases (table_eq_ok.2 found).symm.trans found'
    cases read.symm.trans read'
    rw [ran] at writes
    rw [List.mapM_map] at made
    exact ⟨constant, new, made, writes, by rw [List.length_map]⟩
  · rintro ⟨constant, new, made, rfl, rfl⟩
    have built : Plan.ofStatement (.insert name columns? rows)
        = .ok (.command (.insert n columns? (rows.map fun row => row.map Expr.given))) :=
      bind_eq_ok.2 ⟨n, TableName.read_eq_ok.2 named,
        bind_eq_ok.2 ⟨_, constants_eq_ok_iff.2 ⟨constant, rfl⟩, rfl⟩⟩
    have ran : c.insert view n columns? (rows.map fun row => row.map Expr.given)
        = .ok ([c.storeRows n (stored ++ new)], .inserted rows.length) :=
      insert_eq_ok.2 ⟨t, stored, new, table_eq_ok.2 found, read, List.mapM_map.trans made, rfl,
        by rw [List.length_map]⟩
    simp only [runStatement, built, runPlan, runCommand, ran]

theorem serve_insert {s : Memory} (named : TableName.read? name = some n)
    (found : c.table? (Storage.get? s) n = .ok (some t))
    (read : c.rows (Storage.get? s) n = .ok stored) (constants : Constants rows)
    (made : (rows.mapM fun row => t.newRow c.config.numericPolicy columns? (row.map Expr.given))
      = .ok new) {r : Request} (parsed : r.statement = .ok (.insert name columns? rows)) :
    (c.serve s r).1 = .ok (.changed (.inserted rows.length)) ∧
      Storage.get? (c.serve s r).2 = updateAll (Storage.get? s) [c.storeRows n (stored ++ new)] := by
  have ran := (runStatement_insert_eq_ok named found read).2 ⟨constants, new, made, rfl, rfl⟩
  have served := c.serve_memory s r
  rw [effect, parsed] at served
  simpa only [ran] using served

end Connection

namespace Stocked

variable {c : Connection} {view : View} {name : String} {n : TableName} {t : Table}
  {stored : List Row}

theorem create (keyed : Keyed c view) (named : TableName.read? name = some n)
    {declared : List ColumnDecl}
    (noFloat : ∀ d ∈ declared, Kind.ofTypeName? d.typeName ≠ some .float) {answer : Answer}
    (ok : (c.runStatement view (.createTable name declared)).answer = .ok answer) :
    ∃ t, Plan.declaredTable n declared = .ok t ∧
      Stocked c (updateAll view (c.runStatement view (.createTable name declared)).writes) n t
        [] := by
  obtain ⟨t, made, absent, found, kept⟩ := Connection.runStatement_createTable named ok
  have noRows := Connection.rows_of_none (kept.trans ((keyed.pair n).rows_of_new absent))
  exact ⟨t, made, found, Plan.declaredTable_noFloat noFloat made, noRows, by simp⟩

theorem storeRows (stocked : Stocked c view n t stored) {rows : List Row}
    (stores : ∀ row ∈ rows, t.StoresRow row) :
    Stocked c (updateAll view [c.storeRows n rows]) n t
      (rows.map fun row => row.map Value.stored) := by
  have kept : updateAll view [c.storeRows n rows] (c.definitionKey n) =
      view (c.definitionKey n) :=
    (c.storeRows n rows).update_of_ne (Connection.definitionKey_ne_rowsKey n n)
  refine ⟨?_, stocked.noFloat,
    Connection.rows_storedText stores (c.updateAll_storeRows view n rows), ?_⟩
  · rw [Connection.table?_congr kept]
    exact stocked.found
  · exact List.forall_mem_map.2 fun row mem => (stores row mem).fits

theorem map_stored (stocked : Stocked c view n t stored) :
    (stored.map fun row => row.map Value.stored) = stored := by
  rw [List.map_congr_left fun row mem => (stocked.fit row mem).map_stored stocked.noFloat,
    List.map_id']

theorem stores_of_made (stocked : Stocked c view n t stored) {p : NumericPolicy}
    {columns? : Option (List String)} {α : Type} {rows : List α} {values : α → List Value}
    {new : List Row} (made : (rows.mapM fun row => t.newRow p columns? (values row)) = .ok new) :
    ∀ row ∈ new, t.StoresRow row := by
  intro row mem
  obtain ⟨vs, -, row_ok⟩ := exists_of_mapM_eq_ok made mem
  exact Table.newRow_stores (Connection.placed stocked.found) stocked.noFloat row_ok

theorem stores_append (stocked : Stocked c view n t stored) {new : List Row}
    (stores : ∀ row ∈ new, t.StoresRow row) : ∀ row ∈ stored ++ new, t.StoresRow row :=
  List.forall_mem_append.2 ⟨fun row mem => (stocked.fit row mem).stores stocked.noFloat, stores⟩

theorem append (stocked : Stocked c view n t stored) {new : List Row}
    (stores : ∀ row ∈ new, t.StoresRow row) :
    Stocked c (updateAll view [c.storeRows n (stored ++ new)]) n t
      (stored ++ new.map fun row => row.map Value.stored) := by
  have next := stocked.storeRows (stocked.stores_append stores)
  rwa [List.map_append, stocked.map_stored] at next

theorem insert (stocked : Stocked c view n t stored) (named : TableName.read? name = some n)
    {columns? : Option (List String)} {rows : List (List Expr)} {answer : Answer}
    (ok : (c.runStatement view (.insert name columns? rows)).answer = .ok answer) :
    ∃ new : List Row,
      List.Forall₂ (fun (g : GivenRow) row => List.Forall₂ (g.StoredAs t.columns) t.columns row)
        (rows.map fun row => ⟨c.config.numericPolicy, columns?, row.map Expr.given⟩) new ∧
      Stocked c (updateAll view (c.runStatement view (.insert name columns? rows)).writes) n t
        (stored ++ new) := by
  obtain ⟨-, new, made, writes, -⟩ :=
    (Connection.runStatement_insert_eq_ok named stocked.found stocked.read).1
      (Effect.eq_of_answer ok)
  refine ⟨new.map fun row => row.map Value.stored, ?_, ?_⟩
  · rw [List.forall₂_map_left_iff, List.forall₂_map_right_iff]
    apply (forall₂_of_mapM_eq_ok made).imp
    intro row stored row_ok
    exact Table.newRow_storedAs (g := ⟨_, columns?, row.map Expr.given⟩)
      (Connection.placed stocked.found) stocked.noFloat row_ok
  · rw [writes]
    exact stocked.append (stocked.stores_of_made made)

theorem shown (stocked : Stocked c view n t stored) {given : List GivenRow}
    (storedAs : List.Forall₂ (fun (g : GivenRow) row =>
      List.Forall₂ (g.StoredAs t.columns) t.columns row) given stored) (p : NumericPolicy) :
    List.Forall₂ (fun (g : GivenRow) record => g.ShownAs t.columns p record ∧
      ∀ c ∈ t.columns, ∀ v w, g.last? t.columns c = some v → c.Keeps v w →
        record.get? c.name = some w) given (stored.map (t.recordOf none p)) := by
  have placed := Connection.placed stocked.found
  rw [List.forall₂_map_right_iff]
  apply storedAs.imp
  intro g row values
  have shown : g.ShownAs t.columns p (t.recordOf none p row) :=
    ⟨row, values, Table.recordOf_eq placed values.length_eq.symm p⟩
  refine ⟨shown, fun c mem v w last keeps => ?_⟩
  obtain ⟨s, storedAs, there⟩ := shown.get? placed.names mem
  rw [GivenRow.StoredAs, last] at storedAs
  obtain ⟨encoded, eq, rfl⟩ := storedAs
  rw [there, keeps.decode_encode eq]

theorem under {database : String} {config : Config}
    (stocked : Stocked ⟨database, config⟩ view n t stored) (config' : Config) :
    Stocked ⟨database, config'⟩ view n t stored :=
  ⟨stocked.found, stocked.noFloat, stocked.read, stocked.fit⟩

variable {σ : Type} [Storage σ] [LawfulStorage σ]

theorem serveAll {database : String} {config : Config} (named : TableName.read? name = some n)
    {calls : List Call} (inserts : ∀ call ∈ calls, ∃ columns? rows,
      call.request.statement = .ok (.insert name columns? rows))
    {s : σ} (stocked : Stocked ⟨database, config⟩ (Storage.get? s) n t stored) :
    ∃ new : List Row,
      List.Forall₂ (fun (g : GivenRow) row => List.Forall₂ (g.StoredAs t.columns) t.columns row)
        (givenRows calls (serveAll database s calls).1) new ∧
      Stocked ⟨database, config⟩ (Storage.get? (SqlStore.serveAll database s calls).2) n t
        (stored ++ new) := by
  induction calls generalizing s stored with
  | nil =>
      refine ⟨[], .nil, ?_⟩
      rw [List.append_nil]
      exact stocked
  | cons call calls ih =>
      obtain ⟨columns?, rows, parsed⟩ := inserts call List.mem_cons_self
      have later : ∀ call ∈ calls, ∃ columns? rows,
          call.request.statement = .ok (.insert name columns? rows) :=
        fun call' mem => inserts call' (List.mem_cons_of_mem call mem)
      have stocked := stocked.under call.config
      cases served : (Connection.serve ⟨database, call.config⟩ s call.request).1 with
      | error e =>
          -- An `INSERT` that fails leaves the store as it was.
          have keeps : ∀ name ifExists,
              call.request.statement ≠ .ok (.dropTable name ifExists) := by
            rw [parsed]
            rintro name ifExists ⟨⟩
          have kept := get?_serve_error _ s keeps served
          rw [← kept] at stocked
          obtain ⟨new, stored, last⟩ := ih later (stocked.under config)
          refine ⟨new, ?_, last⟩
          rw [givenRows, SqlStore.serveAll, served]
          exact stored
      | ok answer =>
          obtain ⟨statement, parsed', answered, done, store⟩ := serve_ok served
          obtain rfl := Except.ok.inj (parsed.symm.trans parsed')
          obtain ⟨first, here, next⟩ := stocked.insert named answered
          have view := congrArg Storage.get? store
          rw [Storage.get?_writeAll done] at view
          rw [← view] at next
          obtain ⟨rest, there, last⟩ := ih later (next.under config)
          refine ⟨first ++ rest, ?_, by rw [← List.append_assoc]; exact last⟩
          rw [givenRows, SqlStore.serveAll, served]
          have given : call.given (.ok answer) = rows.map fun row =>
              ⟨call.config.numericPolicy, columns?, row.map Expr.given⟩ := by
            rw [Call.given, parsed]
          rw [List.zipWith_cons_cons, List.flatten_cons, given]
          exact List.rel_append here there

end Stocked

/-- A table that a session creates and then fills by `INSERT`s shows under `SELECT *` the columns
in the order of their declaration, and one record for each row that was put in, in their order.
Under every column a record shows what the stored form of the last value given stands for, or of
the default; and the values that the column keeps come back as they are kept. -/
theorem select_inserted {σ : Type} [Storage σ] [LawfulStorage σ] (database : String) (s : σ)
    (empty : ∀ key, Storage.get? s key = none) (before : List Call)
    (faultless : ∀ answer ∈ (serveAll database s before).1, ∀ fault,
      answer ≠ .error (.storage fault))
    (create select : Call) (inserts : List Call) {name : String} {declared : List ColumnDecl}
    (creates : create.request.statement = .ok (.createTable name declared))
    (noFloat : ∀ d ∈ declared, Kind.ofTypeName? d.typeName ≠ some .float)
    (insertsInto : ∀ call ∈ inserts, ∃ columns? rows,
      call.request.statement = .ok (.insert name columns? rows))
    (selects : select.request.statement = .ok (.select (.everything name))) {answer : Answer} :
    let created :=
      Connection.serve ⟨database, create.config⟩ (serveAll database s before).2 create.request
    let inserted := serveAll database created.2 inserts
    let selected := Connection.serve ⟨database, select.config⟩ inserted.2 select.request
    created.1 = .ok answer → ∃ n t r, TableName.read? name = some n ∧
      Plan.declaredTable n declared = .ok t ∧ selected.1 = .ok (.rows r) ∧
      r.columns = declared.map ColumnDecl.name ∧
      List.Forall₂ (fun (g : GivenRow) record =>
        g.ShownAs t.columns select.config.numericPolicy record ∧
          ∀ c ∈ t.columns, ∀ v w, g.last? t.columns c = some v → c.Keeps v w →
            record.get? c.name = some w) (givenRows inserts inserted.1) r.rows := by
  intro created inserted selected made
  have start : Keyed ⟨database, create.config⟩ (Storage.get? s) := by
    rw [funext empty]
    exact .empty _
  obtain ⟨statement, parsed, answered, done, store⟩ := serve_ok made
  obtain rfl := Except.ok.inj (creates.symm.trans parsed)
  obtain ⟨n, named⟩ : ∃ n, TableName.read? name = some n := by
    obtain ⟨plan, built⟩ := Connection.ofStatement_of_ok answered
    obtain ⟨n, named, -⟩ := bind_eq_ok.1 built
    exact ⟨n, TableName.read_eq_ok.1 named⟩
  obtain ⟨t, declares, stocked⟩ :=
    Stocked.create (start.serveAll faultless) named noFloat answered
  rw [← Storage.get?_writeAll done, ← store] at stocked
  obtain ⟨new, stored, last⟩ := stocked.serveAll named insertsInto
  rw [List.nil_append] at last
  have last := last.under select.config
  exact ⟨n, t, _, named, declares, Connection.serve_everything named last.found last.read selects,
    Plan.declaredTable_names declares, last.shown stored _⟩

theorem select_inserted_two :
    let create : Call :=
      ⟨.default, .tree (.createTable "t" [⟨"id", "INT", []⟩, ⟨"ok", "BOOL", []⟩])⟩
    let inserts : List Call :=
      [⟨.default, .tree (.insert "t" none [[.literal (.int 1), .literal (.bool true)]])⟩,
        ⟨.default, .tree (.insert "t" (some ["id"]) [[.literal .null, .literal .null]])⟩,
        ⟨.default, .tree (.insert "t" (some ["ok", "id"]) [[.literal .null, .literal (.int 2)]])⟩]
    let select : Call := ⟨.default, .tree (.select (.everything "t"))⟩
    let created := Connection.serve ⟨"db", create.config⟩ Memory.empty create.request
    let inserted := serveAll "db" created.2 inserts
    ∃ r, (Connection.serve ⟨"db", select.config⟩ inserted.2 select.request).1 = .ok (.rows r) ∧
      r.columns = ["id", "ok"] ∧ r.rows.length = (givenRows inserts inserted.1).length := by
  intro create inserts select created inserted
  have noFloat : ∀ d ∈ [(⟨"id", "INT", []⟩ : ColumnDecl), ⟨"ok", "BOOL", []⟩],
      Kind.ofTypeName? d.typeName ≠ some .float := by decide
  have insertsInto : ∀ call ∈ inserts, ∃ columns? rows,
      call.request.statement = .ok (.insert "t" columns? rows) := by
    intro call mem
    simp only [inserts, List.mem_cons, List.not_mem_nil, or_false] at mem
    rcases mem with rfl | rfl | rfl <;> exact ⟨_, _, rfl⟩
  have made : created.1 = .ok (.changed (.created ⟨none, "t"⟩)) := rfl
  obtain ⟨n, t, r, -, -, selected, columns, rows⟩ :=
    select_inserted "db" Memory.empty (fun _ => rfl) [] (by simp [serveAll]) create select inserts
      rfl noFloat insertsInto rfl made
  exact ⟨r, selected, columns, rows.length_eq.symm⟩

/-! ## Rows that are stored and loaded -/

theorem Value.stored_eq_self {v : Value} (noFloat : ∀ x, v ≠ .float x) : v.stored = v := by
  cases v with
  | float x => exact absurd rfl (noFloat x)
  | null | bool b | int i | text s | date t => rfl

theorem Row.map_stored_eq_self {rows : List Row}
    (noFloat : ∀ row ∈ rows, ∀ v ∈ row, ∀ x, v ≠ .float x) :
    (rows.map fun row => row.map Value.stored) = rows := by
  refine (List.map_congr_left fun row mem => ?_).trans (List.map_id rows)
  refine (List.map_congr_left fun v mem' => ?_).trans (List.map_id row)
  exact Value.stored_eq_self (noFloat row mem v mem')

/-- Rows that are stored are there when the table is loaded, each value in its own kind, as long as
none is a date or a finite binary64 number. One that is not finite comes back as NULL, and changes
no other value; without such numbers, the rows that come back are those that were stored. -/
theorem Connection.rows?_stored {σ : Type} [Storage σ] [LawfulStorage σ] {c : Connection} {s : σ}
    {n : TableName} {rows : List Row} (done : (Storage.write s (c.storeRows n rows)).1 = .ok ())
    (exact : ∀ row ∈ rows, ∀ v ∈ row, v.exact) :
    let view := Storage.get? (Storage.write s (c.storeRows n rows)).2
    c.rows? view n = .ok (some (rows.map fun row => row.map Value.stored)) ∧
      ((∀ row ∈ rows, ∀ v ∈ row, ∀ x, v ≠ .float x) → c.rows? view n = .ok (some rows)) := by
  intro view
  have text : view (c.rowsKey n) = some (Row.storedText rows) :=
    (congrFun (get?_written done) (c.rowsKey n)).trans (if_pos rfl)
  have loaded := rows?_of_read text (Row.ofStoredText?_storedText exact)
  refine ⟨loaded, fun noFloat => ?_⟩
  rw [loaded, Row.map_stored_eq_self noFloat]

theorem Connection.rows?_stored_unequal :
    let c : Connection := ⟨"db", .default⟩
    let rows : List Row :=
      [[.text "null", .text "\"\\\n\x00\x7f😀", .int Int64.minValue, .bool false], [],
        [.float Decimal.nan, .text "2020-01-02", .float Decimal.infinity]]
    (Storage.write Memory.empty (c.storeRows ⟨none, "t"⟩ rows)).1 = .ok () ∧
    (∀ row ∈ rows, ∀ v ∈ row, v.exact) ∧
    c.rows? (Storage.get? (Storage.write Memory.empty (c.storeRows ⟨none, "t"⟩ rows)).2) ⟨none, "t"⟩ =
      .ok (some [[.text "null", .text "\"\\\n\x00\x7f😀", .int Int64.minValue, .bool false], [],
        [.null, .text "2020-01-02", .null]]) := by
  intro c rows
  have done : (Storage.write Memory.empty (c.storeRows ⟨none, "t"⟩ rows)).1 = .ok () := rfl
  have exact : ∀ row ∈ rows, ∀ v ∈ row, v.exact := by decide
  exact ⟨done, exact, (rows?_stored done exact).1⟩

end SqlStore
