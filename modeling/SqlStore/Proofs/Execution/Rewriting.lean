import SqlStore.Proofs.Execution.FreshTable
import SqlStore.Proofs.Execution.Matching
import SqlStore.Proofs.Schema.Reloaded

/-!
# What a change of rows leaves

`INSERT`, `UPDATE` and `DELETE` load all rows of a table and write those that are left, and so they
write values that they have nothing to do with. These have the texts that they had, but for numbers
that are misread.
-/

namespace SqlStore

open Sql (Expr Statement)

/-! ## Rows of a table -/

namespace Table

variable {t : Table} {p : NumericPolicy} {row : Row}

theorem length_fillRow {targets : List (Column × Value)} (ok : t.fillRow p targets = .ok row) :
    row.length = t.columns.length := by
  have width : t.defaultRow.length = t.columns.length := List.length_map ..
  rw [← width]
  rw [fillRow] at ok
  generalize t.defaultRow = start at ok ⊢
  induction targets generalizing start with
  | nil =>
      rw [List.foldlM_nil, pure_eq_ok] at ok
      rw [ok]
  | cons target targets ih =>
      rw [List.foldlM_cons] at ok
      obtain ⟨next, step, ok⟩ := bind_eq_ok.1 ok
      obtain ⟨s, -, step⟩ := bind_eq_ok.1 step
      obtain rfl := pure_eq_ok.1 step
      rw [ih _ ok, List.length_set]

theorem length_newRow {columns? : Option (List String)} {vs : List Value}
    (ok : t.newRow p columns? vs = .ok row) : row.length = t.columns.length := by
  cases columns? with
  | none =>
      rw [newRow, rowOfValues] at ok
      split at ok
      · cases ok
      · exact length_fillRow ok
  | some names =>
      rw [newRow, rowOfColumns] at ok
      split at ok
      · cases ok
      · obtain ⟨columns, -, ok⟩ := bind_eq_ok.1 ok
        exact length_fillRow ok

/-- Whether the second row keeps the values of the first under all columns but the assigned ones. -/
def KeptRow (t : Table) (assigned : String → Bool) (row row' : Row) : Prop :=
  ∀ c ∈ t.columns, assigned c.name = false →
    (row.getD c.index.toNat .null).KeptAs (row'.getD c.index.toNat .null)

theorem keptRow_loaded (t : Table) (assigned : String → Bool) (row : Row) :
    t.KeptRow assigned row row.loaded := by
  intro c _ _
  have same : row.loaded.getD c.index.toNat .null = (row.getD c.index.toNat .null).loaded := by
    simp only [Row.loaded, List.getD_eq_getElem?_getD, List.getElem?_map]
    cases row[c.index.toNat]? <;> rfl
  rw [same]
  exact Value.keptAs_loaded _

theorem keptRow_assign (placed : Placed 0 t.columns) {assignments : Dict Value}
    {assigned : List (Nat × Value)}
    (ok : (assignments.entries.mapM fun e => t.assignment p e.1 e.2) = .ok assigned) (row : Row) :
    t.KeptRow assignments.contains row (t.assign assigned row.loaded) := by
  intro c mem other
  obtain ⟨v, there, under⟩ :=
    get?_of_forall₂ placed (assign_assignedTo placed ok row.loaded) mem
  have unassigned : assignments.get? c.name = none := by simpa [Dict.contains] using other
  rw [Column.AssignedTo, unassigned] at under
  have value : (t.assign assigned row.loaded).getD c.index.toNat .null =
      row.loaded.getD c.index.toNat .null := by
    rw [List.getD_eq_getElem?_getD, there, Option.getD_some]
    exact under
  rw [value]
  exact keptRow_loaded t assignments.contains row c mem other

end Table

/-! ## Rows in a store -/

def Connection.Holds (c : Connection) (view : View) (n : TableName) (rows : List Row) : Prop :=
  match view (c.rowsKey n) with
  | some text => text = Row.storedText rows
  | none => rows = []

/-- Whether rows of a table are only there along with its columns, as they have been written and
with a value for each column. -/
def Filed (c : Connection) (n : TableName) (view : View) : Prop :=
  ∀ text, view (c.rowsKey n) = some text → ∃ t rows, c.table? view n = .ok (some t) ∧
    text = Row.storedText rows ∧ ∀ row ∈ rows, row.length = t.columns.length

structure Connection.Rewrites (c : Connection) (n : TableName) (view view' : View) (t : Table)
    (old new : List Row) : Prop where
  found : c.table? view n = .ok (some t)
  before : c.Holds view n old
  after : view' (c.rowsKey n) = some (Row.storedText new)
  widths : ∀ row ∈ old ++ new, row.length = t.columns.length
  others : ∀ key, key ≠ c.rowsKey n → view' key = view key

theorem Connection.Rewrites.filed {c : Connection} {n : TableName} {view view' : View} {t : Table}
    {old new : List Row} (rewrites : c.Rewrites n view view' t old new) : Filed c n view' := by
  intro text stored
  refine ⟨t, new, ?_, ?_, fun row mem => rewrites.widths row (List.mem_append_right _ mem)⟩
  · rw [Connection.table?_congr (rewrites.others _ (Connection.definitionKey_ne_rowsKey n n))]
    exact rewrites.found
  · exact Option.some.inj (stored.symm.trans rewrites.after)

namespace Filed

variable {c d : Connection} {view view' : View} {m n : TableName} {t : Table}

theorem of_texts (filed : Filed c n view) (same : ∀ p, view' (d.key m p) = view (c.key n p)) :
    Filed d m view' := by
  intro text stored
  obtain ⟨t, rows, found, written, widths⟩ := filed text ((same .rows).symm.trans stored)
  exact ⟨_, rows, Connection.table?_of_text (same .definition) found, written, widths⟩

theorem rows (filed : Filed c n view) (found : c.table? view n = .ok (some t)) {stored : List Row}
    (read : c.rows view n = .ok stored) : ∃ old, stored = old.map Row.loaded ∧ c.Holds view n old ∧
      ∀ row ∈ old, row.length = t.columns.length := by
  unfold Connection.Holds
  cases there : view (c.rowsKey n) with
  | none =>
      obtain rfl : [] = stored := Except.ok.inj ((Connection.rows_of_none there).symm.trans read)
      exact ⟨[], rfl, rfl, List.forall_mem_nil _⟩
  | some text =>
      obtain ⟨t', old, found', rfl, widths⟩ := filed text there
      obtain rfl : t = t' := Option.some.inj (Except.ok.inj (found.symm.trans found'))
      have loaded := Connection.rows_of_read there (Row.ofStoredText?_loaded old)
      exact ⟨old, Except.ok.inj (read.symm.trans loaded), rfl, widths⟩

theorem rewrites (filed : Filed c n view) (found : c.table? view n = .ok (some t))
    {stored : List Row} (read : c.rows view n = .ok stored) :
    ∃ old, stored = old.map Row.loaded ∧
      ∀ new, ((∀ row ∈ old, row.length = t.columns.length) →
        ∀ row ∈ new, row.length = t.columns.length) →
      c.Rewrites n view (updateAll view [c.storeRows n new]) t old new := by
  obtain ⟨old, loaded, holds, widths⟩ := filed.rows found read
  refine ⟨old, loaded, fun new fit =>
    ⟨found, holds, c.updateAll_storeRows view n new, ?_, fun key other => ?_⟩⟩
  · exact List.forall_mem_append.2 ⟨widths, fit widths⟩
  · exact (c.storeRows n new).update_of_ne other

end Filed

/-! ## Changes of rows -/

namespace Connection

variable {c : Connection} {view : View} {n : TableName} {ws : List Write} {change : Change}

theorem insert_rewrites (filed : Filed c n view) {columns? : Option (List String)}
    {rows : List (List Value)} (ok : c.insert view n columns? rows = .ok (ws, change)) :
    ∃ t old added, added.length = rows.length ∧
      c.Rewrites n view (updateAll view ws) t old (old.map Row.loaded ++ added) := by
  obtain ⟨t, stored, added, found, read, made, rfl, -⟩ := insert_eq_ok.1 ok
  obtain ⟨old, rfl, rewrites⟩ := filed.rewrites (table_eq_ok.1 found) read
  refine ⟨t, old, added, length_of_mapM_eq_ok made, rewrites _ fun widths row mem => ?_⟩
  rcases List.mem_append.1 mem with mem | mem
  · obtain ⟨row', mem', rfl⟩ := List.mem_map.1 mem
    rw [Row.length_loaded, widths row' mem']
  · obtain ⟨vs, -, row_ok⟩ := exists_of_mapM_eq_ok made mem
    exact Table.length_newRow row_ok

theorem update_rewrites (filed : Filed c n view) {assignments : Dict Value} {where? : Option Expr}
    (ok : c.update view n assignments where? = .ok (ws, change)) :
    ∃ t assigned old,
      (assignments.entries.mapM fun e => t.assignment c.config.numericPolicy e.1 e.2) =
        .ok assigned ∧
      c.Rewrites n view (updateAll view ws) t old (old.map fun row =>
        if t.rowHolds c.config where? row.loaded then t.assign assigned row.loaded
        else row.loaded) := by
  obtain ⟨t, assigned, stored, found, made, read, rfl, -⟩ := update_eq_ok.1 ok
  obtain ⟨old, rfl, rewrites⟩ := filed.rewrites (table_eq_ok.1 found) read
  refine ⟨t, assigned, old, made, ?_⟩
  rw [List.map_map]
  refine rewrites _ fun widths row mem => ?_
  obtain ⟨row', mem', rfl⟩ := List.mem_map.1 mem
  rw [Function.comp_apply]
  split
  · exact Table.length_assign assigned _
  · rw [Row.length_loaded, widths row' mem']

theorem delete_rewrites (filed : Filed c n view) {where? : Option Expr}
    (ok : c.delete view n where? = .ok (ws, change)) : ∃ t old,
      c.Rewrites n view (updateAll view ws) t old
        ((old.filter fun row => !t.rowHolds c.config where? row.loaded).map Row.loaded) := by
  obtain ⟨t, stored, found, read, rfl, -⟩ := delete_eq_ok.1 ok
  obtain ⟨old, rfl, rewrites⟩ := filed.rewrites (table_eq_ok.1 found) read
  refine ⟨t, old, ?_⟩
  rw [List.filter_map]
  refine rewrites _ fun widths row mem => ?_
  obtain ⟨row', mem', rfl⟩ := List.mem_map.1 mem
  rw [Row.length_loaded, widths row' (List.mem_filter.1 mem').1]

theorem runCommand_filed {command : Command} (filed : Filed c command.target view)
    (ok : c.runCommand view command = .ok (ws, change)) :
    Filed c command.target (updateAll view ws) := by
  cases command with
  | createTable name t =>
      obtain ⟨absent, -, rfl, -⟩ := createTable_eq_ok.1 ok
      -- There were no columns, and so there are no rows.
      intro text stored
      have kept : (Write.set (c.definitionKey name) t.definitionText).update view (c.rowsKey name) =
          view (c.rowsKey name) :=
        Write.update_of_ne _ (definitionKey_ne_rowsKey name name).symm
      obtain ⟨t', rows, found, -⟩ := filed text (kept.symm.trans stored)
      cases absent.symm.trans found
  | dropTable name ifExists =>
      obtain ⟨⟨t, -, rfl⟩ | ⟨-, -, rfl⟩, -⟩ := dropTable_eq_ok.1 ok
      · intro text stored
        simp [Command.target, updateAll, Write.update_remove] at stored
      · exact filed
  | insert name columns? rows =>
      obtain ⟨t, old, added, -, rewrites⟩ := insert_rewrites filed ok
      exact rewrites.filed
  | update name assignments where? =>
      obtain ⟨t, assigned, old, -, rewrites⟩ := update_rewrites filed ok
      exact rewrites.filed
  | delete name where? =>
      obtain ⟨t, old, rewrites⟩ := delete_rewrites filed ok
      exact rewrites.filed

end Connection

namespace Filed

variable {σ : Type} [Storage σ] [LawfulStorage σ] {c d : Connection} {n : TableName} {r : Request}

theorem serve (written : n.Written) {s : σ} (filed : Filed c n (Storage.get? s)) {answer : Answer}
    (ok : (d.serve s r).1 = .ok answer) : Filed c n (Storage.get? (d.serve s r).2) := by
  by_cases alone : ∀ id, d.RefersTo r id ↔ id = c.identity n
  · have noFault : ∀ fault, (d.serve s r).1 ≠ .error (.storage fault) := by
      intro fault failed
      cases ok.symm.trans failed
    obtain ⟨-, view⟩ := Connection.serve_of_done (Connection.done_of_noFault noFault)
    rw [view]
    rcases d.effect_cases (Storage.get? s) r with
      none | ⟨statement, command, ws, change, parsed, built, ran, effect⟩
    · rw [none]
      exact filed
    · have same : d.identity command.target = c.identity n :=
        (alone _).1 ((Connection.refersTo_target parsed built _).2 rfl)
      rw [effect]
      exact (Connection.runCommand_filed
        (filed.of_texts fun p => congrArg _ (Connection.key_congr same p)) ran).of_texts
          fun p => congrArg _ (Connection.key_congr same p).symm
  · exact filed.of_texts fun p => get?_serve_key written alone

theorem serveEach (written : n.Written) {s : σ} (filed : Filed c n (Storage.get? s))
    {requests : List (Connection × Request)}
    (ok : ∀ answer ∈ (serveEach s requests).1, ∃ a, answer = .ok a) :
    Filed c n (Storage.get? (serveEach s requests).2) := by
  induction requests generalizing s with
  | nil => exact filed
  | cons request requests ih =>
      obtain ⟨first, rest⟩ := List.forall_mem_cons.1 ok
      obtain ⟨answer, first⟩ := first
      exact ih (filed.serve written first) rest

end Filed

/-! ## Statements -/

def Sql.Statement.changes? : Statement → Option String
  | .insert name _ _ | .update name _ _ => some name
  | .delete [item] _ => some item.name
  | _ => none

/-- What a statement leaves of the rows of a table: all of them before those that it inserts, those
that it does not delete, or all under the columns that it does not assign. -/
def Sql.Statement.Keeps (config : Config) (t : Table) (old new : List Row) : Statement → Prop
  | .insert _ _ rows => ∃ kept added, new = kept ++ added ∧ added.length = rows.length ∧
      List.Forall₂ (t.KeptRow fun _ => false) old kept
  | .update _ assignments where? => List.Forall₂ (fun row row' =>
      t.KeptRow (fun column => t.rowHolds config where? row.loaded && assignments.contains column)
        row row') old new
  | .delete _ where? => List.Forall₂ (t.KeptRow fun _ => false)
      (old.filter fun row => !t.rowHolds config where? row.loaded) new
  | .createTable .. | .dropTable .. | .select _ => False

namespace Plan

variable {plan : Plan}

theorem mapExcept_constant_eq_ok {assignments : Dict Expr} {values : Dict Value}
    (ok : assignments.mapExcept constant = .ok values) : values = assignments.map Expr.given := by
  obtain ⟨entries, made, ok⟩ := bind_eq_ok.1 ok
  obtain rfl := pure_eq_ok.1 ok
  have same := map_eq_of_mapM_eq_ok (g := id) (h := fun e => (e.1, e.2.given)) ?_ made
  · rw [List.map_id] at same
    rw [same]
    exact Dict.ofList_entries (assignments.map Expr.given)
  · intro e e' ok
    obtain ⟨v, constant, ok⟩ := bind_eq_ok.1 ok
    obtain rfl := pure_eq_ok.1 ok
    rw [constant_eq_ok constant]
    rfl

theorem ofStatement_insert {table : String} {columns? : Option (List String)}
    {rows : List (List Expr)} (built : ofStatement (.insert table columns? rows) = .ok plan) :
    ∃ n, TableName.read? table = some n ∧
      plan = .command (.insert n columns? (rows.map fun row => row.map Expr.given)) := by
  obtain ⟨n, named, built⟩ := bind_eq_ok.1 built
  obtain ⟨values, constants, built⟩ := bind_eq_ok.1 built
  obtain rfl := pure_eq_ok.1 built
  exact ⟨n, TableName.read_eq_ok.1 named, by rw [constants_eq_ok constants]⟩

theorem ofStatement_update {table : String} {assignments : Dict Expr} {where? : Option Expr}
    (built : ofStatement (.update table assignments where?) = .ok plan) :
    ∃ n, TableName.read? table = some n ∧
      plan = .command (.update n (assignments.map Expr.given) where?) := by
  obtain ⟨n, named, built⟩ := bind_eq_ok.1 built
  obtain ⟨values, constants, built⟩ := bind_eq_ok.1 built
  obtain rfl := pure_eq_ok.1 built
  exact ⟨n, TableName.read_eq_ok.1 named, by rw [mapExcept_constant_eq_ok constants]⟩

theorem ofStatement_delete {item : Sql.FromItem} {where? : Option Expr}
    (built : ofStatement (.delete [item] where?) = .ok plan) :
    ∃ n, TableName.read? item.name = some n ∧ plan = .command (.delete n where?) := by
  obtain ⟨n, named, built⟩ := bind_eq_ok.1 built
  exact ⟨n, TableName.read_eq_ok.1 named, (pure_eq_ok.1 built).symm⟩

end Plan

theorem Connection.runStatement_keeps {c : Connection} {view : View} {statement : Statement}
    {name : String} {n : TableName} (changes : statement.changes? = some name)
    (named : TableName.read? name = some n) (filed : Filed c n view) {answer : Answer}
    (ok : (c.runStatement view statement).answer = .ok answer) : ∃ t old new,
      c.Rewrites n view (updateAll view (c.runStatement view statement).writes) t old new ∧
        statement.Keeps c.config t old new := by
  obtain ⟨plan, built⟩ := ofStatement_of_ok ok
  have loaded (t : Table) (rows : List Row) :
      List.Forall₂ (t.KeptRow fun _ => false) rows (rows.map Row.loaded) :=
    Table.forall₂_map_self fun row _ => t.keptRow_loaded _ row
  cases statement with
  | createTable | dropTable | select => cases changes
  | insert table columns? rows =>
      cases changes
      obtain ⟨n', named', rfl⟩ := Plan.ofStatement_insert built
      obtain rfl := Option.some.inj (named.symm.trans named')
      obtain ⟨ws, change, ran, writes, -⟩ := runStatement_command_ok built ok
      obtain ⟨t, old, added, length, rewrites⟩ := insert_rewrites filed ran
      rw [List.length_map] at length
      exact ⟨t, old, _, writes ▸ rewrites, _, added, rfl, length, loaded t old⟩
  | update table assignments where? =>
      cases changes
      obtain ⟨n', named', rfl⟩ := Plan.ofStatement_update built
      obtain rfl := Option.some.inj (named.symm.trans named')
      obtain ⟨ws, change, ran, writes, -⟩ := runStatement_command_ok built ok
      obtain ⟨t, assigned, old, made, rewrites⟩ := update_rewrites filed ran
      refine ⟨t, old, _, writes ▸ rewrites, Table.forall₂_map_self fun row _ => ?_⟩
      have contains : (assignments.map Expr.given).contains = assignments.contains := by
        funext column
        rw [Dict.contains, Dict.contains, Dict.get?_map, Option.isSome_map]
      split
      · rename_i holds
        simp only [holds, Bool.true_and, ← contains]
        exact Table.keptRow_assign (placed rewrites.found) made row
      · exact t.keptRow_loaded _ row
  | delete tables where? =>
      obtain ⟨item, -, -, rfl, -⟩ := runStatement_footprint ok
      cases changes
      obtain ⟨n', named', rfl⟩ := Plan.ofStatement_delete built
      obtain rfl := Option.some.inj (named.symm.trans named')
      obtain ⟨ws, change, ran, writes, -⟩ := runStatement_command_ok built ok
      obtain ⟨t, old, rewrites⟩ := delete_rewrites filed ran
      exact ⟨t, old, _, writes ▸ rewrites, loaded t _⟩

theorem Sql.Statement.Footprint.named {c : Connection} {statement : Statement} {ws : List Write}
    (footprint : statement.Footprint c ws) {name : String}
    (changes : statement.changes? = some name) : ∃ n, TableName.read? name = some n := by
  cases statement with
  | createTable | dropTable | select => cases changes
  | insert | update =>
      cases changes
      obtain ⟨n, text, named, -⟩ := footprint
      exact ⟨n, named⟩
  | delete tables where? =>
      obtain ⟨item, n, text, rfl, named, -⟩ := footprint
      cases changes
      exact ⟨n, named⟩

variable {σ : Type} [Storage σ] [LawfulStorage σ]

/-- On a store that successful statements have made out of an empty one, an `INSERT`, `UPDATE` or
`DELETE` that succeeds changes the rows of its table only, which all have a value for every column.
Each value that it neither assigns nor deletes is written in its place with the text that it had,
unless it is a number whose text is not read as that number. -/
theorem serve_keepsTexts (s : σ) (empty : ∀ key, Storage.get? s key = none)
    (before : List (Connection × Request))
    (succeeded : ∀ answer ∈ (serveEach s before).1, ∃ a, answer = .ok a)
    (c : Connection) (r : Request) {statement : Statement} {name : String}
    (parsed : r.statement = .ok statement) (changes : statement.changes? = some name) :
    let reached := (serveEach s before).2
    let served := c.serve reached r
    ∀ answer, served.1 = .ok answer → ∃ n t old new, TableName.read? name = some n ∧
      c.Rewrites n (Storage.get? reached) (Storage.get? served.2) t old new ∧
        statement.Keeps c.config t old new := by
  intro reached served answer ok
  obtain ⟨statement', parsed', answered, done, store⟩ := serve_ok ok
  obtain rfl := Except.ok.inj (parsed.symm.trans parsed')
  obtain ⟨n, named⟩ := (Connection.runStatement_footprint answered).named changes
  have start : Filed c n (Storage.get? s) := by
    intro text stored
    cases (empty _).symm.trans stored
  have filed : Filed c n (Storage.get? reached) := start.serveEach ⟨name, named⟩ succeeded
  obtain ⟨t, old, new, rewrites, keeps⟩ := Connection.runStatement_keeps changes named filed answered
  refine ⟨n, t, old, new, named, ?_, keeps⟩
  rw [store, Storage.get?_writeAll done]
  exact rewrites

/-! ## Two rows of one number -/

theorem Row.ofStoredText?_single {v w : Value} (read : Value.ofJson? v.toJson = some w) :
    Row.ofStoredText? (Row.storedText [[v]]) = some [[w]] := by
  rw [ofStoredText?_eq]
  simp [Json.list?, read]

namespace Connection

variable {c : Connection} {s : Memory} {name : String} {n : TableName} {t : Table}

theorem serve_insert_single (named : TableName.read? name = some n)
    (found : c.table? (Storage.get? s) n = .ok (some t)) {stored : List Row}
    (read : c.rows (Storage.get? s) n = .ok stored) {l : Sql.Literal} {row : Row}
    (made : t.newRow c.config.numericPolicy none [l.value] = .ok row) {r : Request}
    (parsed : r.statement = .ok (.insert name none [[.literal l]])) :
    (c.serve s r).1 = .ok (.changed (.inserted 1)) ∧ Storage.get? (c.serve s r).2 =
      (c.storeRows n (stored ++ [row])).update (Storage.get? s) := by
  have constants : Constants [[.literal l]] := by simp [Constants, Plan.constant, Expr.given]
  have single : [[Expr.literal l]].mapM (fun row => t.newRow c.config.numericPolicy none
      (row.map Expr.given)) = .ok [row] := mapM_eq_ok.2 (congrArg (fun row => [row]) made)
  exact serve_insert named found read constants single parsed

end Connection

theorem serve_secondRow {x y : Float} {w : Value}
    (read : Value.ofJson? (Value.float x).toJson = some w) {create first second : Request}
    (creates : create.statement = .ok (.createTable "t" [⟨"x", "FLOAT", []⟩]))
    (inserts : first.statement = .ok (.insert "t" none [[.literal (.float x)]]))
    (insertsAgain : second.statement = .ok (.insert "t" none [[.literal (.float y)]])) :
    let c : Connection := ⟨"db", .default⟩
    let reached := serveEach Memory.empty [(c, create), (c, first)]
    let served := c.serve reached.2 second
    (∀ answer ∈ reached.1, ∃ a, answer = .ok a) ∧
      Storage.get? reached.2 "db.public.tables.t.rows" = some (Row.storedText [[.float x]]) ∧
      served.1 = .ok (.changed (.inserted 1)) ∧
      Storage.get? served.2 "db.public.tables.t.rows" =
        some (Row.storedText [[w], [.float y]]) := by
  intro c reached served
  let n : TableName := ⟨none, "t"⟩
  have named : TableName.read? "t" = some n := by decide
  obtain ⟨t, declares, made, madeAgain⟩ : ∃ t, Plan.declaredTable n [⟨"x", "FLOAT", []⟩] = .ok t ∧
      t.newRow c.config.numericPolicy none [(Sql.Literal.float x).value] = .ok [.float x] ∧
      t.newRow c.config.numericPolicy none [(Sql.Literal.float y).value] = .ok [.float y] :=
    ⟨_, rfl, rfl, rfl⟩
  obtain ⟨checked, text, -⟩ := Plan.declaredTable_eq_ok declares
  have built : Plan.ofStatement (.createTable "t" [⟨"x", "FLOAT", []⟩]) =
      .ok (.command (.createTable n t)) :=
    bind_eq_ok.2 ⟨n, TableName.read_eq_ok.2 named, bind_eq_ok.2 ⟨t, declares, rfl⟩⟩
  -- The stores after the first and after the second request.
  let s₁ : Memory := (c.serve Memory.empty create).2
  let s₂ : Memory := (c.serve s₁ first).2
  have created := c.serve_memory .empty create
  rw [Connection.effect_of_command creates built (Connection.createTable_eq_ok.2
    ⟨Connection.table?_eq_none.2 rfl, checked, rfl, rfl⟩)] at created
  have view₁ : Storage.get? s₁ = (Write.set (c.definitionKey n) t.definitionText).update
      (Storage.get? Memory.empty) := created.2
  have found₁ : c.table? (Storage.get? s₁) n = .ok (some t) := by
    have there : Storage.get? s₁ (c.definitionKey n) = some t.definitionText :=
      (congrFun view₁ _).trans ((Write.update_set _ _ _ _).trans (if_pos rfl))
    rw [Connection.table?_definitionText checked there, ← text]
  have read₁ : c.rows (Storage.get? s₁) n = .ok [] := by
    refine Connection.rows_of_none ((congrFun view₁ _).trans ?_)
    exact Write.update_of_ne _ (c.definitionKey_ne_rowsKey n n).symm
  have inserted := Connection.serve_insert_single named found₁ read₁ made inserts
  have text₂ : Storage.get? s₂ (c.rowsKey n) = some (Row.storedText [[.float x]]) :=
    (congrFun inserted.2 _).trans ((Write.update_set _ _ _ _).trans (if_pos rfl))
  have found₂ : c.table? (Storage.get? s₂) n = .ok (some t) := by
    rw [inserted.2, Connection.table?_congr (Write.update_of_ne _ (c.definitionKey_ne_rowsKey n n))]
    exact found₁
  have read₂ : c.rows (Storage.get? s₂) n = .ok [[w]] :=
    Connection.rows_of_read text₂ (Row.ofStoredText?_single read)
  have last := Connection.serve_insert_single named found₂ read₂ madeAgain insertsAgain
  refine ⟨fun answer mem => ?_, text₂, last.1, ?_⟩
  · rcases List.mem_pair.1 mem with rfl | rfl
    · exact ⟨_, created.1⟩
    · exact ⟨_, inserted.1⟩
  · exact (congrFun last.2 _).trans ((Write.update_set _ _ _ _).trans (if_pos rfl))

theorem serve_keepsTexts_half :
    let c : Connection := ⟨"db", .default⟩
    let x : Float := Decimal.ofScaled 25 (-1)
    let create : Request := .tree (.createTable "t" [⟨"x", "FLOAT", []⟩])
    let insert : Statement := .insert "t" none [[.literal (.float x)]]
    let reached := (serveEach Memory.empty [(c, create), (c, .tree insert)]).2
    let served := c.serve reached (.tree insert)
    Storage.get? served.2 "db.public.tables.t.rows" = some "[[2.5],[2.5]]" ∧
      ∃ n t old new, TableName.read? "t" = some n ∧
        c.Rewrites n (Storage.get? reached) (Storage.get? served.2) t old new ∧
          insert.Keeps c.config t old new := by
  intro c x create insert reached served
  have shown : Value.ofJson? (Value.float x).toJson = some (.float x) ∧
      Row.storedText [[.float x], [.float x]] = "[[2.5],[2.5]]" := by decide +kernel +revert
  have creates : create.statement = .ok (.createTable "t" [⟨"x", "FLOAT", []⟩]) := rfl
  have inserts : (Request.tree insert).statement = .ok insert := rfl
  obtain ⟨succeeded, -, answered, after⟩ := serve_secondRow shown.1 creates inserts inserts
  rw [shown.2] at after
  simp only [served, reached, c]
  refine ⟨after, ?_⟩
  exact serve_keepsTexts Memory.empty (fun _ => rfl) _ succeeded c _ inserts rfl _ answered

/-- A number of sixteen digits is read as its neighbour, and so it is written as that one when a
row is added. -/
theorem serve_misread :
    let c : Connection := ⟨"db", .default⟩
    let reached := serveEach Memory.empty [(c, .text "CREATE TABLE t (x FLOAT)"),
      (c, .text "INSERT INTO t VALUES (9.009560440583765)")]
    let served := c.serve reached.2 (.text "INSERT INTO t VALUES (2.5)")
    (∀ answer ∈ reached.1, ∃ a, answer = .ok a) ∧
      Storage.get? reached.2 "db.public.tables.t.rows" = some "[[9.009560440583765]]" ∧
      served.1 = .ok (.changed (.inserted 1)) ∧
      Storage.get? served.2 "db.public.tables.t.rows" = some "[[9.009560440583764],[2.5]]" := by
  intro c reached served
  have creates : (Request.text "CREATE TABLE t (x FLOAT)").statement =
      .ok (.createTable "t" [⟨"x", "FLOAT", []⟩]) := eq_ok_of_toOption (by decide +kernel)
  have inserts : (Request.text "INSERT INTO t VALUES (9.009560440583765)").statement =
      .ok (.insert "t" none [[.literal (.float (Decimal.ofScaled 9009560440583765 (-15)))]]) :=
    eq_ok_of_toOption (by decide +kernel)
  have insertsAgain : (Request.text "INSERT INTO t VALUES (2.5)").statement =
      .ok (.insert "t" none [[.literal (.float (Decimal.ofScaled 25 (-1)))]]) :=
    eq_ok_of_toOption (by decide +kernel)
  have read : Value.ofJson? (Value.float (Decimal.ofScaled 9009560440583765 (-15))).toJson =
      some (.float (Decimal.ofScaled 9009560440583764 (-15))) := by decide +kernel
  have text : Row.storedText [[.float (Decimal.ofScaled 9009560440583765 (-15))]] =
      "[[9.009560440583765]]" := by decide
  have textAgain : Row.storedText [[.float (Decimal.ofScaled 9009560440583764 (-15))],
      [.float (Decimal.ofScaled 25 (-1))]] = "[[9.009560440583764],[2.5]]" := by decide
  obtain ⟨succeeded, before, answered, after⟩ := serve_secondRow read creates inserts insertsAgain
  rw [text] at before
  rw [textAgain] at after
  simp only [served, reached, c]
  exact ⟨succeeded, before, answered, after⟩

end SqlStore
