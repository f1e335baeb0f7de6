import SqlStore.Proofs.Execution.Catalog
import SqlStore.Proofs.Execution.Errors
import SqlStore.Proofs.Execution.Footprint

/-!
# Stores that sessions reach

What holds of every store that statements have made out of an empty one. Its keys come in pairs,
and as long as there are no columns of binary64 numbers, every table reads as a table and all rows
as rows that fit it. So no statement finds a text that it can not read.
-/

namespace SqlStore

open Sql (Statement)

/-! ## Keys -/

/-- Whether the rows of a table are only there along with its columns. -/
def Paired (c : Connection) (n : TableName) (view : View) : Prop :=
  ∀ text, view (c.rowsKey n) = some text →
    ∃ definition, view (c.definitionKey n) = some definition

namespace Paired

variable {c : Connection} {view : View} {n : TableName}

theorem rows_of_new (paired : Paired c n view) (new : view (c.definitionKey n) = none) :
    view (c.rowsKey n) = none := by
  cases stored : view (c.rowsKey n) with
  | none => rfl
  | some text =>
      obtain ⟨definition, there⟩ := paired text stored
      rw [new] at there
      cases there

theorem createTable (paired : Paired c n view) (name : TableName) (text : String) :
    Paired c n ((Write.set (c.definitionKey name) text).update view) := by
  intro text' stored
  rw [Write.update_set, if_neg (Connection.definitionKey_ne_rowsKey name n).symm] at stored
  rw [Write.update_set]
  split
  · exact ⟨text, rfl⟩
  · exact paired text' stored

theorem storeRows (paired : Paired c n view) {name : TableName} {definition : String}
    (there : view (c.definitionKey name) = some definition) (rows : List Row) :
    Paired c n ((c.storeRows name rows).update view) := by
  intro text stored
  rw [Connection.storeRows, Write.update_set] at stored ⊢
  rw [if_neg (Connection.definitionKey_ne_rowsKey n name)]
  split at stored
  · rename_i eq
    rw [Connection.definitionKey_eq_iff.2 eq]
    exact ⟨definition, there⟩
  · exact paired text stored

theorem dropTable (paired : Paired c n view) (name : TableName) : Paired c n
    (updateAll view [.remove (c.definitionKey name), .remove (c.rowsKey name)]) := by
  intro text stored
  simp only [updateAll, List.foldl_cons, List.foldl_nil, Write.update_remove] at stored ⊢
  rw [if_neg (Connection.definitionKey_ne_rowsKey n name)]
  split at stored
  · cases stored
  · rename_i ne
    rw [if_neg (Connection.definitionKey_ne_rowsKey name n).symm] at stored
    rw [if_neg fun eq => ne (Connection.definitionKey_eq_iff.1 eq)]
    exact paired text stored

theorem runCommand (paired : Paired c n view) {command : Command} {ws : List Write}
    {change : Change} (ok : c.runCommand view command = .ok (ws, change)) :
    Paired c n (updateAll view ws) := by
  have stored {name : TableName} {t : Table} (rows : List Row) (found : c.table view name = .ok t)
      (only : ws = [c.storeRows name rows]) : Paired c n (updateAll view ws) := by
    obtain ⟨text, columns, there, -⟩ :=
      Connection.table?_eq_some.1 (Connection.table_eq_ok.1 found)
    subst only
    exact paired.storeRows there rows
  cases command with
  | createTable name t =>
      obtain ⟨-, -, rfl, -⟩ := Connection.createTable_eq_ok.1 ok
      exact paired.createTable name _
  | dropTable name ifExists =>
      obtain ⟨⟨t, -, rfl⟩ | ⟨-, -, rfl⟩, -⟩ := Connection.dropTable_eq_ok.1 ok
      · exact paired.dropTable name
      · exact paired
  | insert name columns? rows =>
      obtain ⟨t, old, new, found, -, -, only, -⟩ := Connection.insert_eq_ok.1 ok
      exact stored _ found only
  | update name assignments where? =>
      obtain ⟨t, assigned, old, found, -, -, only, -⟩ := Connection.update_eq_ok.1 ok
      exact stored _ found only
  | delete name where? =>
      obtain ⟨t, old, found, -, only, -⟩ := Connection.delete_eq_ok.1 ok
      exact stored _ found only

end Paired

/-- Every key belongs to a table, and rows are only stored for tables that are there. -/
structure Keyed (c : Connection) (view : View) : Prop where
  keys {key text} : view key = some text →
    ∃ n : TableName, n.Written ∧ (key = c.definitionKey n ∨ key = c.rowsKey n)
  paired {n text} : view (c.rowsKey n) = some text →
    ∃ definition, view (c.definitionKey n) = some definition

namespace Keyed

variable {c : Connection} {view : View} {name : TableName}

theorem pair (keyed : Keyed c view) (n : TableName) : Paired c n view :=
  fun _ => keyed.paired

theorem runCommand (keyed : Keyed c view) {command : Command} (written : command.target.Written)
    {ws : List Write} {change : Change} (ok : c.runCommand view command = .ok (ws, change)) :
    Keyed c (updateAll view ws) where
  keys := by
    intro key text stored
    by_cases changed : ∃ w ∈ ws, key = w.key
    · obtain ⟨w, mem, rfl⟩ := changed
      obtain ⟨p, key⟩ := (Connection.runCommand_footprint ok).key mem
      cases p with
      | definition => exact ⟨command.target, written, .inl key⟩
      | rows => exact ⟨command.target, written, .inr key⟩
    · rw [updateAll_of_ne fun w mem eq => changed ⟨w, mem, eq⟩] at stored
      exact keyed.keys stored
  paired := (keyed.pair _).runCommand ok _

theorem effect (keyed : Keyed c view) (r : Request) :
    Keyed c (updateAll view (c.effect view r).writes) := by
  rcases c.effect_cases view r with none | ⟨s, command, ws, change, -, built, ran, effect⟩
  · rw [none]
    exact keyed
  · rw [effect]
    exact keyed.runCommand (Plan.ofStatement_written built) ran

theorem empty (c : Connection) : Keyed c fun _ => none where
  keys := by
    rintro key text ⟨⟩
  paired := by
    rintro n text ⟨⟩

theorem under {database : String} {config : Config} (keyed : Keyed ⟨database, config⟩ view)
    (config' : Config) : Keyed ⟨database, config'⟩ view :=
  ⟨keyed.keys, keyed.paired⟩

theorem serveAll {σ : Type} [Storage σ] [LawfulStorage σ] {database : String} {config : Config}
    {s : σ} (keyed : Keyed ⟨database, config⟩ (Storage.get? s)) {calls : List Call}
    (faultless : ∀ answer ∈ (serveAll database s calls).1, ∀ fault,
      answer ≠ .error (.storage fault)) :
    Keyed ⟨database, config⟩ (Storage.get? (SqlStore.serveAll database s calls).2) := by
  induction calls generalizing s with
  | nil => exact keyed
  | cons call calls ih =>
      have done := Connection.done_of_noFault (faultless _ List.mem_cons_self)
      obtain ⟨-, view⟩ := Connection.serve_of_done done
      have kept := (keyed.under call.config).effect call.request
      rw [← view] at kept
      exact ih (kept.under config) fun answer mem => faultless answer (List.mem_cons_of_mem _ mem)

end Keyed

/-! ## Tables and rows -/

def Sql.Statement.NoFloat : Statement → Prop
  | .createTable _ columns => ∀ d ∈ columns, Kind.ofTypeName? d.typeName ≠ some .float
  | _ => True

def Request.NoFloat (r : Request) : Prop :=
  ∀ s, r.statement = .ok s → s.NoFloat

theorem Plan.ofStatement_noFloat {s : Statement} (noFloat : s.NoFloat) {command : Command}
    (built : ofStatement s = .ok (.command command)) :
    ∀ name t, command = .createTable name t → t.NoFloat := by
  rintro name t rfl
  cases s with
  | createTable text columns =>
      obtain ⟨n, -, built⟩ := bind_eq_ok.1 built
      obtain ⟨t', declared, built⟩ := bind_eq_ok.1 built
      cases pure_eq_ok.1 built
      exact declaredTable_noFloat noFloat declared
  | select s => cases ofSelect_reads built
  | dropTable text ifExists =>
      obtain ⟨n, -, built⟩ := bind_eq_ok.1 built
      cases pure_eq_ok.1 built
  | insert | update =>
      obtain ⟨n, -, built⟩ := bind_eq_ok.1 built
      obtain ⟨_, -, built⟩ := bind_eq_ok.1 built
      cases pure_eq_ok.1 built
  | delete tables where? =>
      match tables, built with
      | [item], built =>
          obtain ⟨n, -, built⟩ := bind_eq_ok.1 built
          cases pure_eq_ok.1 built

/-- Every definition reads as a table, and all rows as rows that fit their table. -/
structure Consistent (c : Connection) (view : View) : Prop extends Keyed c view where
  tables {n text} : view (c.definitionKey n) = some text →
    ∃ t, c.table? view n = .ok (some t) ∧ t.check = .ok () ∧ t.NoFloat
  rows {n t} : c.table? view n = .ok (some t) →
    ∃ rows, c.rows view n = .ok rows ∧ ∀ row ∈ rows, t.FitsRow row

abbrev Readable {α : Type} (x : Except Error α) : Prop :=
  FailsWith (fun e => e.isCorrupt = false) x

namespace Consistent

variable {c : Connection} {view : View} {name : TableName}

theorem noFloat (consistent : Consistent c view) {t : Table}
    (found : c.table? view name = .ok (some t)) : t.NoFloat := by
  obtain ⟨text, columns, there, -⟩ := Connection.table?_eq_some.1 found
  obtain ⟨t', found', -, noFloat⟩ := consistent.tables there
  rw [found'] at found
  cases found
  exact noFloat

theorem stores_of_rows (consistent : Consistent c view) {t : Table}
    (found : c.table? view name = .ok (some t)) {rows : List Row}
    (read : c.rows view name = .ok rows) : ∀ row ∈ rows, t.StoresRow row := by
  obtain ⟨rows', read', fit⟩ := consistent.rows found
  obtain rfl := Except.ok.inj (read.symm.trans read')
  intro row mem
  exact (fit row mem).stores (consistent.noFloat found)

theorem createTable (consistent : Consistent c view)
    (new : view (c.definitionKey name) = none) {t : Table} (ok : t.check = .ok ())
    (noFloat : t.NoFloat)
    (keyed : Keyed c ((Write.set (c.definitionKey name) t.definitionText).update view)) :
    Consistent c ((Write.set (c.definitionKey name) t.definitionText).update view) where
  toKeyed := keyed
  tables := by
    intro n text stored
    rw [Write.update_set] at stored
    split at stored
    · rename_i eq
      have stored : (Write.set (c.definitionKey name) t.definitionText).update view
          (c.definitionKey n) = some t.definitionText := by
        rw [Write.update_set, if_pos eq]
      exact ⟨_, Connection.table?_definitionText ok stored, ok, noFloat⟩
    · rename_i ne
      obtain ⟨t', found, ok', noFloat'⟩ := consistent.tables stored
      exact ⟨_, Connection.table?_of_text (Write.update_of_ne _ ne) found, ok', noFloat'⟩
  rows := by
    intro n t' found
    have kept : (Write.set (c.definitionKey name) t.definitionText).update view (c.rowsKey n) =
        view (c.rowsKey n) :=
      Write.update_of_ne _ (Connection.definitionKey_ne_rowsKey name n).symm
    by_cases eq : c.definitionKey n = c.definitionKey name
    -- Rows are only stored for tables that are there, so a new table has none.
    · have none := (consistent.pair _).rows_of_new (eq ▸ new)
      exact ⟨[], Connection.rows_of_none (kept.trans none), by simp⟩
    · have found' := Connection.table?_of_text (Write.update_of_ne _ eq).symm found
      obtain ⟨rows, read, fit⟩ := consistent.rows found'
      exact ⟨rows, Connection.rows_of_text kept read, fit⟩

theorem storeRows (consistent : Consistent c view) {t : Table}
    (found : c.table? view name = .ok (some t)) {rows : List Row}
    (stores : ∀ row ∈ rows, t.StoresRow row)
    (keyed : Keyed c ((c.storeRows name rows).update view)) :
    Consistent c ((c.storeRows name rows).update view) where
  toKeyed := keyed
  tables := by
    intro n text stored
    have kept : (c.storeRows name rows).update view (c.definitionKey n) =
        view (c.definitionKey n) :=
      Write.update_of_ne _ (Connection.definitionKey_ne_rowsKey n name)
    obtain ⟨t', found', ok, noFloat⟩ := consistent.tables (kept.symm.trans stored)
    exact ⟨_, Connection.table?_of_text kept found', ok, noFloat⟩
  rows := by
    intro n t' found'
    have kept : view (c.definitionKey n) =
        (c.storeRows name rows).update view (c.definitionKey n) :=
      (Write.update_of_ne _ (Connection.definitionKey_ne_rowsKey n name)).symm
    have before := Connection.table?_of_text kept found'
    by_cases eq : c.rowsKey n = c.rowsKey name
    · have stored : (c.storeRows name rows).update view (c.rowsKey n) =
          some (Row.storedText rows) := by
        rw [Connection.storeRows, Write.update_set, if_pos eq]
      refine ⟨_, Connection.rows_storedText stores stored, fun row mem => ?_⟩
      obtain ⟨row', mem', rfl⟩ := List.mem_map.1 mem
      have same := Connection.table?_of_text
        (congrArg view (Connection.definitionKey_eq_iff.2 eq)) found
      rw [before, Except.ok.injEq, Option.some.injEq, Table.mk.injEq] at same
      rw [Table.FitsRow, same.2]
      exact (stores row' mem').fits
    · obtain ⟨rows', read, fit⟩ := consistent.rows before
      exact ⟨rows', Connection.rows_of_text (Write.update_of_ne _ eq) read, fit⟩

theorem dropTable (consistent : Consistent c view) (name : TableName) (keyed : Keyed c
      (updateAll view [.remove (c.definitionKey name), .remove (c.rowsKey name)])) :
    Consistent c (updateAll view [.remove (c.definitionKey name), .remove (c.rowsKey name)]) where
  toKeyed := keyed
  tables := by
    intro n text stored
    have ne : c.definitionKey n ≠ c.definitionKey name := by
      intro eq
      simp [updateAll, Write.update_remove, eq] at stored
    have kept := kept_definition ne
    obtain ⟨t, found, ok, noFloat⟩ := consistent.tables (kept.symm.trans stored)
    exact ⟨_, Connection.table?_of_text kept found, ok, noFloat⟩
  rows := by
    intro n t found
    have ne : c.definitionKey n ≠ c.definitionKey name := by
      intro eq
      obtain ⟨text, columns, stored, -⟩ := Connection.table?_eq_some.1 found
      simp [updateAll, Write.update_remove, eq] at stored
    obtain ⟨rows, read, fit⟩ :=
      consistent.rows (Connection.table?_of_text (kept_definition ne).symm found)
    exact ⟨rows, Connection.rows_of_text (kept_rows ne) read, fit⟩
where
  kept_definition {n : TableName} (ne : c.definitionKey n ≠ c.definitionKey name) :
      updateAll view [.remove (c.definitionKey name), .remove (c.rowsKey name)]
        (c.definitionKey n) = view (c.definitionKey n) := by
    apply updateAll_of_ne
    intro w mem
    rcases List.mem_pair.1 mem with rfl | rfl
    · exact ne
    · exact Connection.definitionKey_ne_rowsKey n name
  kept_rows {n : TableName} (ne : c.definitionKey n ≠ c.definitionKey name) :
      updateAll view [.remove (c.definitionKey name), .remove (c.rowsKey name)]
        (c.rowsKey n) = view (c.rowsKey n) := by
    apply updateAll_of_ne
    intro w mem
    rcases List.mem_pair.1 mem with rfl | rfl
    · exact (Connection.definitionKey_ne_rowsKey name n).symm
    · exact fun eq => ne (Connection.definitionKey_eq_iff.2 eq)

theorem runCommand (consistent : Consistent c view) {command : Command}
    (written : command.target.Written)
    (noFloat : ∀ name t, command = .createTable name t → t.NoFloat)
    {ws : List Write} {change : Change} (ok : c.runCommand view command = .ok (ws, change)) :
    Consistent c (updateAll view ws) := by
  have keyed := consistent.toKeyed.runCommand written ok
  cases command with
  | createTable name t =>
      obtain ⟨absent, checked, rfl, -⟩ := Connection.createTable_eq_ok.1 ok
      exact consistent.createTable (Connection.table?_eq_none.1 absent) checked
        (noFloat name t rfl) keyed
  | dropTable name ifExists =>
      obtain ⟨⟨t, -, rfl⟩ | ⟨-, -, rfl⟩, -⟩ := Connection.dropTable_eq_ok.1 ok
      · exact consistent.dropTable name keyed
      · exact consistent
  | insert name columns? rows =>
      obtain ⟨t, old, new, found, read, made, rfl, -⟩ := Connection.insert_eq_ok.1 ok
      have found := Connection.table_eq_ok.1 found
      have noFloat := consistent.noFloat found
      have stores := consistent.stores_of_rows found read
      refine consistent.storeRows found (fun row mem => ?_) keyed
      rcases List.mem_append.1 mem with mem | mem
      · exact stores row mem
      · obtain ⟨vs, -, row_ok⟩ := exists_of_mapM_eq_ok made mem
        exact Table.newRow_stores (Connection.placed found) noFloat row_ok
  | update name assignments where? =>
      obtain ⟨t, assigned, old, found, made, read, rfl, -⟩ := Connection.update_eq_ok.1 ok
      have found := Connection.table_eq_ok.1 found
      have noFloat := consistent.noFloat found
      have stores := consistent.stores_of_rows found read
      refine consistent.storeRows found (fun row mem => ?_) keyed
      obtain ⟨row', mem', rfl⟩ := List.mem_map.1 mem
      split
      · refine Table.assign_stores (Connection.placed found) (fun a mem => ?_) (stores row' mem')
        obtain ⟨entry, -, a_ok⟩ := exists_of_mapM_eq_ok made mem
        exact Table.assignment_stores noFloat a_ok
      · exact stores row' mem'
  | delete name where? =>
      obtain ⟨t, old, found, read, rfl, -⟩ := Connection.delete_eq_ok.1 ok
      have found := Connection.table_eq_ok.1 found
      have stores := consistent.stores_of_rows found read
      refine consistent.storeRows found (fun row mem => ?_) keyed
      exact stores row (List.mem_filter.1 mem).1

/-! ### What can be read -/

theorem table?_readable (consistent : Consistent c view) (n : TableName) :
    Readable (c.table? view n) := by
  cases stored : view (c.definitionKey n) with
  | none =>
      rw [Connection.table?_eq_none.2 stored]
      exact .ok none
  | some text =>
      obtain ⟨t, found, -⟩ := consistent.tables stored
      rw [found]
      exact .ok _

theorem readsWith (consistent : Consistent c view) :
    c.ReadsWith view fun e => e.isCorrupt = false where
  table? := consistent.table?_readable
  rows found := by
    obtain ⟨rows, read, -⟩ := consistent.rows (Connection.table_eq_ok.1 found)
    rw [read]
    exact .ok rows

theorem effect (consistent : Consistent c view) {r : Request} (noFloat : r.NoFloat) :
    Consistent c (updateAll view (c.effect view r).writes) ∧ Readable (c.effect view r).answer := by
  constructor
  · rcases c.effect_cases view r with none | ⟨s, command, ws, change, parsed, built, ran, effect⟩
    · rw [none]
      exact consistent
    · rw [effect]
      have declared := Plan.ofStatement_noFloat (noFloat s parsed) built
      exact consistent.runCommand (Plan.ofStatement_written built) declared ran
  · rw [Connection.effect]
    cases parsed : r.statement with
    | error e => exact .error rfl
    | ok s => exact consistent.readsWith.runStatement .notCorrupt

theorem empty (c : Connection) : Consistent c fun _ => none where
  toKeyed := .empty c
  tables := by
    rintro n text ⟨⟩
  rows := by
    rintro n t ⟨⟩

theorem under {database : String} {config : Config}
    (consistent : Consistent ⟨database, config⟩ view) (config' : Config) :
    Consistent ⟨database, config'⟩ view :=
  ⟨consistent.toKeyed.under config', consistent.tables, consistent.rows⟩

theorem serveAll {database : String} {config : Config} {s : Memory}
    (consistent : Consistent ⟨database, config⟩ (Storage.get? s)) {calls : List Call}
    (noFloat : ∀ call ∈ calls, call.request.NoFloat) :
    Consistent ⟨database, config⟩ (Storage.get? (serveAll database s calls).2) ∧
      ∀ answer ∈ (SqlStore.serveAll database s calls).1, Readable answer := by
  induction calls generalizing s with
  | nil => exact ⟨consistent, by simp [SqlStore.serveAll]⟩
  | cons call calls ih =>
      obtain ⟨kept, readable⟩ :=
        (consistent.under call.config).effect (noFloat call List.mem_cons_self)
      obtain ⟨answered, view⟩ := Connection.serve_memory ⟨database, call.config⟩ s call.request
      rw [← view] at kept
      obtain ⟨last, all⟩ := ih (kept.under config)
        fun call' mem => noFloat call' (List.mem_cons_of_mem call mem)
      refine ⟨last, fun answer mem => ?_⟩
      rcases List.mem_cons.1 mem with rfl | mem
      · rw [answered]
        exact readable
      · exact all answer mem

end Consistent

/-- Every session on an empty store in memory that declares no column of binary64 numbers leaves a
store whose keys are in pairs, whose definitions read as tables and whose rows fit them. None of
its statements finds a text that it can not read. -/
theorem serveAll_consistent (database : String) (calls : List Call)
    (noFloat : ∀ call ∈ calls, call.request.NoFloat) (config : Config) :
    Consistent ⟨database, config⟩ (Storage.get? (serveAll database Memory.empty calls).2) ∧
      ∀ answer ∈ (serveAll database Memory.empty calls).1, ∀ n,
        answer ≠ .error (.corruptSchema n) ∧ answer ≠ .error (.corruptRows n) := by
  have start : Consistent ⟨database, config⟩ (Storage.get? Memory.empty) := .empty _
  obtain ⟨consistent, readable⟩ := start.serveAll noFloat
  refine ⟨consistent, fun answer mem n => ⟨?_, ?_⟩⟩
  · rintro rfl
    cases readable _ mem _ rfl
  · rintro rfl
    cases readable _ mem _ rfl

theorem serveAll_consistent_insert :
    let calls : List Call :=
      [⟨.default, .tree (.createTable "t" [⟨"id", "INT", []⟩])⟩,
        ⟨.default, .tree (.insert "t" none [[.literal (.int 1)]])⟩]
    Consistent ⟨"db", .default⟩ (Storage.get? (serveAll "db" Memory.empty calls).2) ∧
      ∀ answer ∈ (serveAll "db" Memory.empty calls).1, ∀ n,
        answer ≠ .error (.corruptSchema n) ∧ answer ≠ .error (.corruptRows n) := by
  intro calls
  refine serveAll_consistent "db" calls (fun call mem => ?_) .default
  rcases List.mem_pair.1 mem with rfl | rfl
  · rintro s ⟨⟩
    have int : Kind.ofTypeName? "INT" ≠ some .float := by decide
    simpa [Sql.Statement.NoFloat] using int
  · rintro s ⟨⟩
    trivial

end SqlStore
