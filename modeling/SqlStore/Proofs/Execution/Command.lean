import SqlStore.Execution.Command
import SqlStore.Proofs.Except

namespace SqlStore.Connection

open Sql (Expr)

variable {c : Connection} {view : View} {name : TableName} {ws : List Write} {change : Change}

theorem createTable_eq_ok {t : Table} :
    c.createTable view name t = .ok (ws, change) ↔
      c.table? view name = .ok none ∧ t.check = .ok () ∧
        ws = [.set (c.definitionKey name) t.definitionText] ∧ change = .created name := by
  rw [createTable, bind_eq_ok]
  constructor
  · rintro ⟨found, read, ok⟩
    cases found with
    | some t' => cases ok
    | none =>
        obtain ⟨_, checked, ok⟩ := bind_eq_ok.1 ok
        cases pure_eq_ok.1 ok
        exact ⟨read, mapError_eq_ok.1 checked, rfl, rfl⟩
  · rintro ⟨read, checked, rfl, rfl⟩
    exact ⟨none, read, bind_eq_ok.2 ⟨(), mapError_eq_ok.2 checked, rfl⟩⟩

theorem dropTable_eq_ok {ifExists : Bool} :
    c.dropTable view name ifExists = .ok (ws, change) ↔
      ((∃ t, c.table? view name = .ok (some t) ∧
          ws = [.remove (c.definitionKey name), .remove (c.rowsKey name)]) ∨
        c.table? view name = .ok none ∧ ifExists ∧ ws = []) ∧ change = .dropped name := by
  rw [dropTable, bind_eq_ok]
  constructor
  · rintro ⟨found, read, ok⟩
    cases found with
    | some t =>
        cases pure_eq_ok.1 ok
        exact ⟨.inl ⟨t, read, rfl⟩, rfl⟩
    | none =>
        dsimp only at ok
        split at ok
        · rename_i allowed
          cases pure_eq_ok.1 ok
          exact ⟨.inr ⟨read, allowed, rfl⟩, rfl⟩
        · cases ok
  · rintro ⟨⟨t, read, rfl⟩ | ⟨read, allowed, rfl⟩, rfl⟩
    · exact ⟨some t, read, rfl⟩
    · exact ⟨none, read, if_pos allowed⟩

theorem insert_eq {t : Table} {stored : List Row} (found : c.table view name = .ok t)
    (read : c.rows view name = .ok stored) (columns? : Option (List String))
    (rows : List (List Value)) : c.insert view name columns? rows =
      (rows.mapM (t.newRow c.config.numericPolicy columns?) >>= fun new =>
        pure ([c.storeRows name (stored ++ new)], .inserted rows.length)) := by
  rw [insert, found, read]
  rfl

theorem insert_eq_ok {columns? : Option (List String)} {rows : List (List Value)} :
    c.insert view name columns? rows = .ok (ws, change) ↔ ∃ t stored new,
      c.table view name = .ok t ∧ c.rows view name = .ok stored ∧
        rows.mapM (t.newRow c.config.numericPolicy columns?) = .ok new ∧
          ws = [c.storeRows name (stored ++ new)] ∧ change = .inserted rows.length := by
  constructor
  · intro ok
    obtain ⟨t, found, ok⟩ := bind_eq_ok.1 ok
    obtain ⟨stored, read, ok⟩ := bind_eq_ok.1 ok
    obtain ⟨new, made, ok⟩ := bind_eq_ok.1 ok
    cases pure_eq_ok.1 ok
    exact ⟨t, stored, new, found, read, made, rfl, rfl⟩
  · rintro ⟨t, stored, new, found, read, made, rfl, rfl⟩
    exact bind_eq_ok.2 ⟨t, found, bind_eq_ok.2 ⟨stored, read, bind_eq_ok.2 ⟨new, made, rfl⟩⟩⟩

theorem update_eq_ok {assignments : Dict Value} {where? : Option Expr} :
    c.update view name assignments where? = .ok (ws, change) ↔ ∃ t assigned stored,
      c.table view name = .ok t ∧
        (assignments.entries.mapM fun e => t.assignment c.config.numericPolicy e.1 e.2) =
          .ok assigned ∧
        c.rows view name = .ok stored ∧
          ws = [c.storeRows name (stored.map fun row =>
            if t.rowHolds c.config where? row then t.assign assigned row else row)] ∧
          change = .updated (stored.countP (t.rowHolds c.config where?)) := by
  constructor
  · intro ok
    obtain ⟨t, found, ok⟩ := bind_eq_ok.1 ok
    obtain ⟨assigned, made, ok⟩ := bind_eq_ok.1 ok
    obtain ⟨stored, read, ok⟩ := bind_eq_ok.1 ok
    cases pure_eq_ok.1 ok
    exact ⟨t, assigned, stored, found, made, read, rfl, rfl⟩
  · rintro ⟨t, assigned, stored, found, made, read, rfl, rfl⟩
    exact bind_eq_ok.2 ⟨t, found, bind_eq_ok.2 ⟨assigned, made, bind_eq_ok.2 ⟨stored, read, rfl⟩⟩⟩

theorem delete_eq_ok {where? : Option Expr} :
    c.delete view name where? = .ok (ws, change) ↔ ∃ t stored,
      c.table view name = .ok t ∧ c.rows view name = .ok stored ∧
        ws = [c.storeRows name (stored.filter fun row => !t.rowHolds c.config where? row)] ∧
          change = .deleted (stored.countP (t.rowHolds c.config where?)) := by
  constructor
  · intro ok
    obtain ⟨t, found, ok⟩ := bind_eq_ok.1 ok
    obtain ⟨stored, read, ok⟩ := bind_eq_ok.1 ok
    cases pure_eq_ok.1 ok
    exact ⟨t, stored, found, read, rfl, rfl⟩
  · rintro ⟨t, stored, found, read, rfl, rfl⟩
    exact bind_eq_ok.2 ⟨t, found, bind_eq_ok.2 ⟨stored, read, rfl⟩⟩

end SqlStore.Connection
