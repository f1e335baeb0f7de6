import SqlStore.Proofs.Execution.Rewriting
import SqlStore.Proofs.Value.Order

namespace SqlStore

/-! ## Values -/

namespace Value

theorem isNumber_int (i : Int64) : (Value.int i).loaded.IsNumber := by
  have read := ofJson?_toJson_loaded (.int i)
  rw [ofJson?_toJson rfl] at read
  rw [← Option.some.inj read]
  trivial

theorem isNumber_finite {x : Float} (finite : x.isFinite) : (Value.float x).loaded.IsNumber := by
  obtain ⟨y, read, number⟩ := ofJson?_toJson_finite finite
  rw [loaded, read]
  exact number

theorem loaded_infinite {x : Float} (infinite : ¬ x.isFinite) : (Value.float x).loaded = .null := by
  rw [loaded, toJson, Json.ofFloat, if_neg infinite]
  rfl

end Value

/-! ## Columns -/

namespace Column

variable {c : Column} {v s : Value}

/-- Whether a value makes a binary64 number that is not finite in a column of such numbers. -/
def Overflows (c : Column) (v : Value) : Prop :=
  c.kind = .float ∧ match v with
    | .float x => ¬ x.isFinite
    | .text s => ∃ x, Decimal.readFloat? (Text.trim s.toList) = some x ∧ ¬ x.isFinite
    | _ => False

theorem encode?_reject_float (kind : c.kind = .float) (given : v ≠ .null)
    (stored : c.encode? .reject v = some s) :
    ∃ x : Float, s = .float x ∧ (c.Overflows v ↔ ¬ x.isFinite) := by
  simp only [encode?, kind] at stored
  cases v with
  | null => exact absurd rfl given
  | bool b => cases stored
  | int i =>
      cases stored
      exact ⟨_, rfl, by simp [Overflows, Decimal.ofInt64_isFinite]⟩
  | float x =>
      cases stored
      exact ⟨x, rfl, by simp [Overflows, kind]⟩
  | text t =>
      cases read : Decimal.readFloat? (Text.trim t.toList) with
      | none =>
          simp only [read] at stored
          cases stored
      | some x =>
          simp only [read] at stored
          cases stored
          exact ⟨x, rfl, by simp [Overflows, kind, read]⟩
  | date t =>
      cases stored
      exact ⟨_, rfl, by simp [Overflows, Decimal.ofInt64_isFinite]⟩

theorem loaded_encode?_reject (numeric : c.kind = .integer ∨ c.kind = .float) (given : v ≠ .null)
    (stored : c.encode? .reject v = some s) :
    (c.Overflows v → s.loaded = .null) ∧ (¬ c.Overflows v → s.loaded.IsNumber) := by
  rcases numeric with kind | kind
  · rcases encode?_integer kind stored with ⟨null, -⟩ | ⟨i, rfl⟩ | ⟨coerce, -⟩
    · exact absurd null given
    · refine ⟨fun overflows => ?_, fun _ => Value.isNumber_int i⟩
      have other := overflows.1
      rw [kind] at other
      cases other
    · cases coerce
  · obtain ⟨x, rfl, overflows⟩ := encode?_reject_float kind given stored
    rw [overflows, Classical.not_not]
    exact ⟨Value.loaded_infinite, Value.isNumber_finite⟩

theorem decode_isNumber (numeric : c.kind = .integer ∨ c.kind = .float) {w : Value}
    (number : w.IsNumber) (p : NumericPolicy) : c.decode p w = w := by
  rcases numeric with kind | kind
  all_goals
    cases w with
    | int i => simp [decode, kind]
    | float x => simp [decode, kind]
    | _ => cases number

end Column

/-! ## Rows -/

namespace Table

/-- Whether an `INSERT` gives a row as the table has it: known columns, and a value for each of
them. -/
def Accepts (t : Table) (columns? : Option (List String)) (vs : List Value) : Prop :=
  match columns? with
  | none => vs.length ≤ t.columns.length
  | some names => names.length = vs.length ∧ ∀ name ∈ names, ∃ c ∈ t.columns, c.name = name

def Refusal (e : Error) : Prop :=
  ∃ v c, e = .refused v c

variable {t : Table} {columns? : Option (List String)} {vs : List Value}

theorem newRow_refuses (p : NumericPolicy) (accepts : t.Accepts columns? vs) :
    FailsWith Refusal (t.newRow p columns? vs) := by
  have encode (c : Column) (v : Value) : FailsWith Refusal (c.encode p v) := by
    rw [Column.encode]
    split
    · exact .ok _
    · exact .error ⟨v, c, rfl⟩
  have fill (targets : List (Column × Value)) : FailsWith Refusal (t.fillRow p targets) := by
    refine .foldlM (fun row target => ?_) _ _
    exact .bind (encode target.1 target.2) fun s _ => .ok _
  cases columns? with
  | none =>
      rw [newRow, rowOfValues, if_neg (Nat.not_lt.2 accepts)]
      exact fill _
  | some names =>
      obtain ⟨count, known⟩ := accepts
      rw [newRow, rowOfColumns, if_neg (Classical.not_not.2 count)]
      refine .bind (.mapM fun name mem => ?_) fun columns _ => fill _
      obtain ⟨c, there, named⟩ := known name mem
      rw [column]
      split
      · exact .ok _
      · rename_i absent
        have other := List.find?_eq_none.1 absent c there
        simp [named] at other

theorem recordOf_newRow_reject (placed : Placed 0 t.columns) {row : Row}
    (ok : t.newRow .reject columns? vs = .ok row) (p : NumericPolicy) {c : Column}
    (mem : c ∈ t.columns) (numeric : c.kind = .integer ∨ c.kind = .float) {v : Value}
    (given : v ≠ .null)
    (last : (⟨.reject, columns?, vs⟩ : GivenRow).last? t.columns c = some v) :
    ∃ w, (t.recordOf none p row.loaded).get? c.name = some w ∧
      (c.Overflows v → w = c.decode p .null) ∧ (¬ c.Overflows v → w.IsNumber) := by
  obtain ⟨s, there, encoded⟩ := newRow_get? (g := ⟨.reject, columns?, vs⟩) placed ok mem
  rw [last] at encoded
  obtain ⟨infinite, number⟩ := Column.loaded_encode?_reject numeric given encoded
  have here : row.loaded.getD c.index.toNat .null = s.loaded := by
    rw [Row.loaded, List.getD_eq_getElem?_getD, List.getElem?_map, there]
    rfl
  refine ⟨_, get?_recordOf placed mem p row.loaded, fun overflows => ?_, fun within => ?_⟩
  · rw [here, infinite overflows]
  · rw [here, Column.decode_isNumber numeric (number within)]
    exact number within

end Table

namespace Connection

variable {c : Connection} {view : View} {name : String} {n : TableName} {t : Table}
  {stored : List Row}

theorem rows_loaded {rows : List Row} (written : view (c.rowsKey n) = some (Row.storedText rows)) :
    c.rows view n = .ok (rows.map Row.loaded) :=
  rows_of_read written (Row.ofStoredText?_loaded rows)

theorem runStatement_everything_stored (named : TableName.read? name = some n)
    (found : c.table? view n = .ok (some t)) (rows : List Row) (config : Config) :
    (⟨c.database, config⟩ : Connection).runStatement (updateAll view [c.storeRows n rows])
        (.select (.everything name))
      = ⟨[], .ok (.rows ⟨t.columns.map Column.name,
          (rows.map Row.loaded).map (t.recordOf none config.numericPolicy)⟩)⟩ := by
  have kept : updateAll view [c.storeRows n rows] (c.definitionKey n)
      = view (c.definitionKey n) :=
    (c.storeRows n rows).update_of_ne (definitionKey_ne_rowsKey n n)
  have found' := (table?_congr kept).trans found
  exact runStatement_everything (c := ⟨c.database, config⟩) named found'
    (rows_loaded (c.updateAll_storeRows view n rows))

theorem insert_refuses (found : c.table? view n = .ok (some t)) (read : c.rows view n = .ok stored)
    {columns? : Option (List String)} {rows : List (List Value)}
    (accepts : ∀ vs ∈ rows, t.Accepts columns? vs) :
    FailsWith Table.Refusal (c.insert view n columns? rows) := by
  rw [insert_eq (table_eq_ok.2 found) read]
  exact .bind (.mapM fun vs mem => Table.newRow_refuses _ (accepts vs mem)) fun new _ => .ok _

/-- An `INSERT` under the rejecting policy fails and stores nothing, with a mismatch of types unless
its rows are not made for the table; or everything but NULL that it gives for a column of numbers
is a number under `SELECT *`, whatever the policy is then. A binary64 number that is not finite is
the exception: it counts as no number at all. -/
theorem runPlan_insert_reject (named : TableName.read? name = some n)
    (found : c.table? view n = .ok (some t)) (read : c.rows view n = .ok stored)
    (reject : c.config.numericPolicy = .reject) (columns? : Option (List String))
    (rows : List (List Value)) (config : Config) :
    let inserted := c.runPlan view (.command (.insert n columns? rows))
    let selected := (⟨c.database, config⟩ : Connection).runStatement
      (updateAll view inserted.writes) (.select (.everything name))
    (inserted.writes = [] ∧ ∃ e, inserted.answer = .error e ∧
        ((∀ vs ∈ rows, t.Accepts columns? vs) → e.kind = .typeMismatch)) ∨
      (∃ answer, inserted.answer = .ok answer) ∧ ∃ before shown : List Record,
        before.length = stored.length ∧
        selected = ⟨[], .ok (.rows ⟨t.columns.map Column.name, before ++ shown⟩)⟩ ∧
        List.Forall₂ (fun vs record => ∀ column ∈ t.columns,
          column.kind = .integer ∨ column.kind = .float → ∀ v, v ≠ .null →
          (⟨.reject, columns?, vs⟩ : GivenRow).last? t.columns column = some v →
            ∃ w, record.get? column.name = some w ∧
              (column.Overflows v → w = column.decode config.numericPolicy .null) ∧
              (¬ column.Overflows v → w.IsNumber)) rows shown := by
  intro inserted selected
  cases ran : c.insert view n columns? rows with
  | error e =>
      have failed : inserted = ⟨[], .error e⟩ := by
        simp only [inserted, runPlan, runCommand, ran]
      refine .inl ⟨by rw [failed], e, by rw [failed], fun accepts => ?_⟩
      obtain ⟨v, column, rfl⟩ := insert_refuses found read accepts e ran
      rfl
  | ok outcome =>
      obtain ⟨ws, change⟩ := outcome
      have done : inserted = ⟨ws, .ok (.changed change)⟩ := by
        simp only [inserted, runPlan, runCommand, ran]
      obtain ⟨t', old, new, found', read', made, rfl, -⟩ := insert_eq_ok.1 ran
      cases (table_eq_ok.2 found).symm.trans found'
      cases read.symm.trans read'
      refine .inr ⟨⟨_, by rw [done]⟩,
        (stored.map Row.loaded).map (t.recordOf none config.numericPolicy),
        (new.map Row.loaded).map (t.recordOf none config.numericPolicy), by simp, ?_, ?_⟩
      · simp only [selected, done]
        rw [runStatement_everything_stored named found, List.map_append, List.map_append]
      · rw [List.map_map, List.forall₂_map_right_iff]
        apply (forall₂_of_mapM_eq_ok made).imp
        intro vs row ok column mem numeric v given last
        rw [reject] at ok
        exact Table.recordOf_newRow_reject (Connection.placed found) ok config.numericPolicy mem
          numeric given last

theorem runPlan_insert_reject_half :
    let c : Connection := ⟨"db", ⟨.standard, .reject⟩⟩
    let n : TableName := ⟨none, "t"⟩
    let t : Table := ⟨"t", [⟨"x", .float, 0, none, none⟩]⟩
    let view : View := fun key => if key = c.definitionKey n then some t.definitionText else none
    let inserted := c.runPlan view (.command (.insert n none [[.text " 2.5 "]]))
    inserted.answer = .ok (.changed (.inserted 1)) ∧ ∃ record w,
      c.runStatement (updateAll view inserted.writes) (.select (.everything "t"))
        = ⟨[], .ok (.rows ⟨["x"], [record]⟩)⟩ ∧ record.get? "x" = some w ∧ w.IsNumber := by
  intro c n t view inserted
  have named : TableName.read? "t" = some n := by decide
  have found : c.table? view n = .ok (some t) := table?_definitionText (t := t) rfl (if_pos rfl)
  have read : c.rows view n = .ok [] := rows_of_none rfl
  have ran : c.insert view n none [[.text " 2.5 "]]
      = .ok ([c.storeRows n [[.float (Decimal.ofScaled 25 (-1))]]], .inserted 1) :=
    insert_eq_ok.2 ⟨t, [], _, table_eq_ok.2 found, read, eq_ok_of_toOption (by decide), rfl,
      rfl⟩
  have done : inserted.answer = .ok (.changed (.inserted 1)) := by
    simp only [inserted, runPlan, runCommand, ran]
  have within : ¬ (⟨"x", .float, 0, none, none⟩ : Column).Overflows (.text " 2.5 ") := by
    rintro ⟨-, x, parsed, infinite⟩
    have value : Decimal.readFloat? (Text.trim " 2.5 ".toList)
        = some (Decimal.ofScaled 25 (-1)) := by decide
    cases value.symm.trans parsed
    exact infinite (by decide)
  rcases runPlan_insert_reject named found read rfl none [[.text " 2.5 "]] c.config with
    ⟨-, e, failed, -⟩ | ⟨-, before, shown, empty, selected, all⟩
  · cases done.symm.trans failed
  · obtain rfl := List.length_eq_zero_iff.1 empty
    cases all with
    | cons number rest =>
        cases rest
        obtain ⟨w, there, -, number⟩ := number _ List.mem_cons_self (.inr rfl) _ (by simp) rfl
        exact ⟨done, _, w, selected, there, number within⟩

/-- The text of infinity is stored too, and NULL is read. -/
theorem runPlan_insert_reject_infinite :
    let c : Connection := ⟨"db", ⟨.standard, .reject⟩⟩
    let n : TableName := ⟨none, "t"⟩
    let t : Table := ⟨"t", [⟨"x", .float, 0, none, none⟩]⟩
    let view : View := fun key => if key = c.definitionKey n then some t.definitionText else none
    let inserted := c.runPlan view (.command (.insert n none [[.text "inf"]]))
    c.table? view n = .ok (some t) ∧ inserted.answer = .ok (.changed (.inserted 1)) ∧
      updateAll view inserted.writes (c.rowsKey n) = some "[[null]]" ∧
      c.runStatement (updateAll view inserted.writes) (.select (.everything "t"))
        = ⟨[], .ok (.rows ⟨["x"], [.ofList [("x", .null)]]⟩)⟩ := by
  intro c n t view inserted
  have named : TableName.read? "t" = some n := by decide
  have found : c.table? view n = .ok (some t) := table?_definitionText (t := t) rfl (if_pos rfl)
  have ran : c.insert view n none [[.text "inf"]]
      = .ok ([c.storeRows n [[.float Decimal.infinity]]], .inserted 1) :=
    insert_eq_ok.2 ⟨t, [], _, table_eq_ok.2 found, rows_of_none rfl,
      eq_ok_of_toOption (by decide), rfl, rfl⟩
  have done : inserted
      = ⟨[c.storeRows n [[.float Decimal.infinity]]], .ok (.changed (.inserted 1))⟩ := by
    simp only [inserted, runPlan, runCommand, ran]
  have text : Row.storedText [[.float Decimal.infinity]] = "[[null]]" := by decide
  have stored : updateAll view [c.storeRows n [[.float Decimal.infinity]]] (c.rowsKey n)
      = some "[[null]]" := by
    rw [← text]
    exact c.updateAll_storeRows view n _
  rw [done]
  exact ⟨found, rfl, stored, runStatement_everything_stored named found _ c.config⟩

end Connection

end SqlStore
