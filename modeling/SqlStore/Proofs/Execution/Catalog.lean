import Mathlib.Data.List.Nodup
import SqlStore.Proofs.Schema.Fits

namespace SqlStore

/-! ## Keys -/

namespace Connection

variable {c : Connection}

theorem definitionKey_ne_rowsKey (m n : TableName) : c.definitionKey m ≠ c.rowsKey n := by
  intro eq
  have last := congrArg (fun key => key.toList.getLast?) eq
  simp [definitionKey, rowsKey, String.toList_append] at last

theorem definitionKey_eq_iff {m n : TableName} :
    c.definitionKey m = c.definitionKey n ↔ c.rowsKey m = c.rowsKey n := by
  rw [definitionKey, definitionKey, rowsKey, rowsKey, String.append_left_inj,
    String.append_left_inj]

/-! ## Columns -/

variable {view view' : View} {m n : TableName} {t : Table}

theorem table?_eq_none : c.table? view n = .ok none ↔ view (c.definitionKey n) = none := by
  rw [table?]
  cases view (c.definitionKey n) with
  | none => simp
  | some text =>
      cases read : Table.columnsOfText? text with
      | none => simp [read]
      | some columns =>
          cases ok : Table.ofColumns n.text columns <;>
          simp [Except.mapError, Except.map, read, ok]

theorem table?_eq_some : c.table? view n = .ok (some t) ↔ ∃ text columns,
    view (c.definitionKey n) = some text ∧ Table.columnsOfText? text = some columns ∧
      Table.ofColumns n.text columns = .ok t := by
  rw [table?]
  cases view (c.definitionKey n) with
  | none => simp
  | some text =>
      cases read : Table.columnsOfText? text with
      | none => simp [read]
      | some columns =>
          cases ok : Table.ofColumns n.text columns <;>
          simp [Except.mapError, Except.map, read, ok]

theorem table_eq_ok : c.table view n = .ok t ↔ c.table? view n = .ok (some t) := by
  rw [table, bind_eq_ok]
  constructor
  · rintro ⟨found, read, ok⟩
    cases found with
    | none => cases ok
    | some t' =>
        obtain rfl := pure_eq_ok.1 ok
        exact read
  · intro read
    exact ⟨some t, read, rfl⟩

theorem check_of_table? (found : c.table? view n = .ok (some t)) : t.check = .ok () := by
  obtain ⟨text, columns, -, -, made⟩ := table?_eq_some.1 found
  exact (Table.ofColumns_eq_ok.1 made).2

theorem placed (found : c.table? view n = .ok (some t)) : Table.Placed 0 t.columns :=
  (Table.check_ok_iff.1 (check_of_table? found)).2

theorem table?_of_text {d : Connection}
    (same : view' (d.definitionKey m) = view (c.definitionKey n))
    (found : c.table? view n = .ok (some t)) :
    d.table? view' m = .ok (some ⟨m.text, t.columns⟩) := by
  obtain ⟨text, columns, stored, read, made⟩ := table?_eq_some.1 found
  obtain ⟨rfl, ok⟩ := Table.ofColumns_eq_ok.1 made
  refine table?_eq_some.2 ⟨text, columns, same.trans stored, read, ?_⟩
  exact Table.ofColumns_eq_ok.2 ⟨rfl, ok⟩

theorem table?_congr (same : view' (c.definitionKey n) = view (c.definitionKey n)) :
    c.table? view' n = c.table? view n := by
  rw [table?, table?, same]

theorem table?_definitionText (ok : t.check = .ok ())
    (stored : view (c.definitionKey n) = some t.definitionText) :
    c.table? view n = .ok (some ⟨n.text, t.columns⟩) := by
  obtain ⟨columns, read, perm⟩ := Table.columnsOfText?_definitionText ok
  exact table?_eq_some.2 ⟨_, columns, stored, read, Table.ofColumns_of_perm ok perm n.text⟩

/-! ## Rows -/

theorem rows_eq_ok {rows : List Row} :
    c.rows view n = .ok rows ↔ ∃ found, c.rows? view n = .ok found ∧ found.getD [] = rows := by
  rw [Connection.rows, bind_eq_ok]
  exact exists_congr fun found => and_congr_right fun _ => pure_eq_ok

theorem rows?_of_text {d : Connection} {found : Option (List Row)}
    (same : view' (d.rowsKey m) = view (c.rowsKey n)) (ok : c.rows? view n = .ok found) :
    d.rows? view' m = .ok found := by
  rw [rows?] at ok ⊢
  rw [same]
  cases stored : view (c.rowsKey n) with
  | none =>
      rw [stored] at ok
      exact ok
  | some text =>
      simp only [stored] at ok ⊢
      split
      · rename_i blank
        rw [if_pos blank] at ok
        exact ok
      · rename_i notBlank
        rw [if_neg notBlank] at ok
        cases read : Row.ofStoredText? text with
        | none =>
            rw [read] at ok
            cases ok
        | some rows =>
            rw [read] at ok
            exact ok

theorem rows_of_text {d : Connection} {rows : List Row}
    (same : view' (d.rowsKey m) = view (c.rowsKey n)) (ok : c.rows view n = .ok rows) :
    d.rows view' m = .ok rows := by
  obtain ⟨found, read, eq⟩ := rows_eq_ok.1 ok
  exact rows_eq_ok.2 ⟨found, rows?_of_text same read, eq⟩

theorem rows_congr (same : view' (c.rowsKey n) = view (c.rowsKey n)) :
    c.rows view' n = c.rows view n := by
  rw [Connection.rows, Connection.rows, rows?, rows?, same]

theorem rows_of_none (none : view (c.rowsKey n) = none) : c.rows view n = .ok [] := by
  rw [Connection.rows, rows?, none]
  rfl

theorem rows?_of_read {rows loaded : List Row}
    (stored : view (c.rowsKey n) = some (Row.storedText rows))
    (read : Row.ofStoredText? (Row.storedText rows) = some loaded) :
    c.rows? view n = .ok (some loaded) := by
  simp [rows?, stored, Row.storedText_not_blank, read]

theorem rows_of_read {rows loaded : List Row}
    (stored : view (c.rowsKey n) = some (Row.storedText rows))
    (read : Row.ofStoredText? (Row.storedText rows) = some loaded) :
    c.rows view n = .ok loaded :=
  rows_eq_ok.2 ⟨some loaded, rows?_of_read stored read, rfl⟩

theorem rows_of_exact {rows : List Row} (exact : ∀ row ∈ rows, ∀ v ∈ row, v.exact)
    (stored : view (c.rowsKey n) = some (Row.storedText rows)) :
    c.rows view n = .ok (rows.map fun row => row.map Value.stored) :=
  rows_of_read stored (Row.ofStoredText?_storedText exact)

theorem rows_storedText {rows : List Row} (stores : ∀ row ∈ rows, t.StoresRow row)
    (stored : view (c.rowsKey n) = some (Row.storedText rows)) :
    c.rows view n = .ok (rows.map fun row => row.map Value.stored) :=
  rows_of_exact (fun row mem => (stores row mem).exact) stored

end Connection

/-! ## Records -/

theorem qualify_injective (source? : Option String) : Function.Injective (qualify source?) := by
  intro name name' same
  cases source? with
  | none => exact same
  | some source => exact String.append_right_inj _ |>.1 same

namespace Table

variable {t : Table} {source? : Option String}

theorem get?_recordOf (placed : Placed 0 t.columns) {column : Column} (mem : column ∈ t.columns)
    (p : NumericPolicy) (row : Row) :
    (t.recordOf source? p row).get? (qualify source? column.name) =
      some (column.decode p (row.getD column.index.toNat .null)) := by
  have names := placed.names.map (qualify_injective source?)
  rw [List.map_map] at names
  refine Dict.get?_ofList_of_mem ?_ (List.mem_map_of_mem mem)
  rw [List.map_map]
  exact names

theorem get?_recordOf_of_not_mem {key : String} (absent : key ∉ t.columnNames source?)
    (p : NumericPolicy) (row : Row) : (t.recordOf source? p row).get? key = none := by
  refine Dict.get?_ofList_of_not_mem fun named => absent ?_
  rw [List.map_map] at named
  exact named

end Table

end SqlStore
