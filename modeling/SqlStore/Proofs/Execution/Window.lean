import SqlStore.Proofs.Execution.Footprint
import SqlStore.Proofs.Sql.Limiting

namespace SqlStore

open Query (Relation)
open Sql (Expr Select Statement TokenStream limitArguments limitTexts)

/-! ## What a SELECT shows -/

namespace Connection

def selected (c : Connection) (view : View) (s : Select) : Except Error Relation := do
  let plan ← Plan.ofSelect s
  (c.relation view plan).mapError Failure.error

variable {c : Connection} {view : View}

theorem runStatement_select (s : Select) :
    c.runStatement view (.select s) = ⟨[], (c.selected view s).map Answer.rows⟩ := by
  rw [runStatement, Plan.ofStatement, selected]
  cases planned : Plan.ofSelect s with
  | error e => rfl
  | ok plan =>
      have reads := Plan.ofSelect_reads planned
      change c.runPlan view plan = ⟨[], ((c.relation view plan).mapError Failure.error).map Answer.rows⟩
      cases plan with
      | command command => cases reads
      | _ =>
          simp only [runPlan]
          split
          · rename_i found
            rw [found]
            rfl
          · rename_i failed
            rw [failed, relation_writes reads failed]
            rfl

theorem runStatement_select_eq_rows {s : Select} {r : Relation} :
    c.runStatement view (.select s) = ⟨[], .ok (.rows r)⟩ ↔ c.selected view s = .ok r := by
  simp only [runStatement_select, Effect.mk.injEq, true_and, map_eq_ok, Answer.rows.injEq,
    exists_eq_right]

theorem execute_select {σ : Type} [Storage σ] {store : σ} {sql : String} {s : Select}
    (parsed : Statement.parse sql = .ok (.select s)) :
    c.execute store sql = ((c.selected (Storage.get? store) s).map Answer.rows, store) := by
  rw [execute, run, parsed]
  simp only [runStatement_select]
  rfl

theorem scan_of_exact {n : TableName} {t : Table} {rows : List Row} (checked : t.check = .ok ())
    (exact : ∀ row ∈ rows, ∀ v ∈ row, v.exact)
    (definition : view (c.definitionKey n) = some t.definitionText)
    (stored : view (c.rowsKey n) = some (Row.storedText rows)) (source? : Option String) :
    c.scan view n source? = .ok ⟨Table.columnNames ⟨n.text, t.columns⟩ source?,
      (rows.map fun row => row.map Value.stored).map
        (Table.recordOf ⟨n.text, t.columns⟩ source? c.config.numericPolicy)⟩ := by
  rw [scan, table_eq_ok.2 (table?_definitionText checked definition), rows_of_exact exact stored]
  rfl

end Connection

/-! ## LIMIT -/

namespace Plan

theorem ofSelect_limited {s : Select} (unlimited : s.limit? = none) (arguments : List Expr) :
    ofSelect { s with limit? := some arguments } =
      ofSelect s >>= fun shown => window shown arguments := by
  -- Without `LIMIT` nothing is done with the plan at last.
  have last : limited s = .ok := funext fun shown => by rw [limited, unlimited]
  rw [ofSelect_eq, ofSelect_eq, last]
  simp only [bind_assoc]
  rfl

theorem limitArgument_ofNat {n : Nat} (small : n < 2 ^ 63) :
    limitArgument (.literal (.int (.ofNat n))) = .ok n := by
  have value : (Int64.ofNat n).toInt = n := Int64.toInt_ofNat_of_lt small
  have nonneg : 0 ≤ Int64.ofNat n := by
    rw [Int64.le_iff_toInt_le, value]
    exact Int.natCast_nonneg n
  rw [limitArgument, if_pos nonneg, value, Int.toNat_natCast]

theorem window_limitArguments (source : Plan) {offset count : Nat} (small : offset < 2 ^ 63)
    (small' : count < 2 ^ 63) : window source (limitArguments offset count) =
      .ok (.limit (if offset = 0 then source else .offset source offset) count) := by
  rw [window, limitArguments, List.mapM_cons, List.mapM_cons, List.mapM_nil,
    limitArgument_ofNat small, limitArgument_ofNat small']
  rfl

end Plan

namespace Connection

variable {c : Connection} {view : View}

theorem relation_window (source : Plan) (offset count : Nat) :
    c.relation view (.limit (if offset = 0 then source else .offset source offset) count) =
      (c.relation view source).map fun r => (r.offset offset).limit count := by
  rw [relation]
  split
  · rename_i zero
    subst zero
    cases c.relation view source <;> rfl
  · rw [relation]
    cases c.relation view source <;> rfl

theorem selected_limited {s : Select} (unlimited : s.limit? = none) {offset count : Nat}
    (small : offset < 2 ^ 63) (small' : count < 2 ^ 63) :
    c.selected view { s with limit? := some (limitArguments offset count) } =
      (c.selected view s).map fun r => (r.offset offset).limit count := by
  rw [selected, Plan.ofSelect_limited unlimited, selected]
  cases planned : Plan.ofSelect s with
  | error e => rfl
  | ok plan =>
      change (Plan.window plan (limitArguments offset count) >>= _) = Except.map _ (Except.mapError _ _)
      rw [Plan.window_limitArguments plan small small']
      change Except.mapError _ (c.relation view _) = _
      rw [relation_window]
      cases c.relation view plan <;> rfl

end Connection

/-! ## Pages -/

theorem flatMap_pages {α : Type} (rows : List α) (size : Nat) (k : Nat) :
    ((List.range k).flatMap fun i => (rows.drop (i * size)).take size) = rows.take (k * size) := by
  induction k with
  | zero => rw [Nat.zero_mul, List.take_zero, List.range_zero, List.flatMap_nil]
  | succ k ih =>
      rw [List.range_succ, List.flatMap_append, ih, List.flatMap_singleton, Nat.succ_mul,
        List.take_add]

/-- A `SELECT` fails with a `LIMIT` clause as it fails without. Otherwise the clause leaves of its
rows those from the offset on, as many as the count says. So the pages of one size that are shown
one after another are all rows together. -/
theorem Connection.execute_limited {σ : Type} [Storage σ] (c : Connection) (store : σ)
    {sql : String} {s : Select} (parsed : Statement.parse sql = .ok (.select s))
    (unlimited : s.limit? = none)
    (unclosed : (TokenStream.scan sql.toList).tokens.getLast? ≠ some .semicolon) :
    (∀ e, (c.execute store sql).1 = .error e →
      ∀ offset < 2 ^ 63, ∀ count < 2 ^ 63, ∀ clause ∈ limitTexts offset count,
        c.execute store (sql ++ clause) = (.error e, store)) ∧
    ∀ answer, (c.execute store sql).1 = .ok answer → ∃ r : Relation, answer = .rows r ∧
      (∀ offset < 2 ^ 63, ∀ count < 2 ^ 63, ∀ clause ∈ limitTexts offset count,
        c.execute store (sql ++ clause) =
          (.ok (.rows ⟨r.columns, (r.rows.drop offset).take count⟩), store)) ∧
      ∀ size k, size < 2 ^ 63 → (k - 1) * size < 2 ^ 63 → r.rows.length ≤ k * size →
        ∃ pages : Nat → Relation,
          (∀ i < k, ∀ clause ∈ limitTexts (i * size) size,
            c.execute store (sql ++ clause) = (.ok (.rows (pages i)), store)) ∧
          ((List.range k).flatMap fun i => (pages i).rows) = r.rows := by
  have limited (offset : Nat) (small : offset < 2 ^ 63) (count : Nat) (small' : count < 2 ^ 63)
      (clause : String) (written : clause ∈ limitTexts offset count) :
      c.execute store (sql ++ clause) =
        (((c.selected (Storage.get? store) s).map fun r => (r.offset offset).limit count).map
          Answer.rows, store) := by
    have goesOn := Statement.parse_limited parsed unlimited unclosed small small' written
    rw [execute_select goesOn, selected_limited unlimited small small']
  rw [execute_select parsed]
  cases found : c.selected (Storage.get? store) s with
  | error e =>
      constructor
      · rintro _ ⟨⟩ offset small count small' clause written
        rw [limited offset small count small' clause written, found]
        rfl
      · rintro answer ⟨⟩
  | ok r =>
      have shown (offset : Nat) (small : offset < 2 ^ 63) (count : Nat) (small' : count < 2 ^ 63)
          (clause : String) (written : clause ∈ limitTexts offset count) :
          c.execute store (sql ++ clause) =
            (.ok (.rows ⟨r.columns, (r.rows.drop offset).take count⟩), store) := by
        rw [limited offset small count small' clause written, found]
        rfl
      constructor
      · rintro e ⟨⟩
      · rintro _ ⟨⟩
        refine ⟨r, rfl, shown, fun size k small offsets all => ?_⟩
        refine ⟨fun i => ⟨r.columns, (r.rows.drop (i * size)).take size⟩, fun i lt => ?_, ?_⟩
        · have le : i * size ≤ (k - 1) * size := Nat.mul_le_mul_right size (by omega)
          exact shown (i * size) (by omega) size small
        · rw [flatMap_pages, List.take_of_length_le all]

theorem Connection.execute_limited_three :
    let c : Connection := ⟨"db", .default⟩
    let t : Table := ⟨"t", [⟨"a", .integer, 0, none, none⟩]⟩
    let stored : List Row := [[.int 2], [.int 3], [.int 1]]
    let store : Memory := ⟨.ofList [(c.definitionKey ⟨none, "t"⟩, t.definitionText),
      (c.rowsKey ⟨none, "t"⟩, Row.storedText stored)]⟩
    let sql := "SELECT a FROM t ORDER BY a DESC"
    let row (i : Int64) : Record := .ofList [("a", .int i)]
    c.execute store sql = (.ok (.rows ⟨["a"], [row 3, row 2, row 1]⟩), store) ∧
      c.execute store (sql ++ " LIMIT 1, 1") = (.ok (.rows ⟨["a"], [row 2]⟩), store) ∧
      c.execute store (sql ++ " LIMIT 9223372036854775807 OFFSET 1") =
        (.ok (.rows ⟨["a"], [row 2, row 1]⟩), store) := by
  intro c t stored store sql row
  let s : Select := ⟨[(.column ⟨none, "a"⟩, none)], [⟨"t", none, none⟩], none, [],
    [(.column ⟨none, "a"⟩, .desc)], none⟩
  have parsed : Statement.parse sql = .ok (.select s) := eq_ok_of_toOption (by decide +kernel)
  have unclosed : (TokenStream.scan sql.toList).tokens.getLast? ≠ some .semicolon := by
    decide +kernel
  have definition : Storage.get? store (c.definitionKey ⟨none, "t"⟩) = some t.definitionText := by
    decide
  have rows : Storage.get? store (c.rowsKey ⟨none, "t"⟩) = some (Row.storedText stored) := by
    decide
  have exact : ∀ row ∈ stored, ∀ v ∈ row, v.exact := by decide
  have scanned : c.scan (Storage.get? store) ⟨none, "t"⟩ none =
      .ok ⟨["a"], [row 2, row 3, row 1]⟩ := scan_of_exact rfl exact definition rows none
  have planned : Plan.ofSelect s = .ok (.project (.order (.scan ⟨none, "t"⟩ none)
      [(⟨none, "a"⟩, .desc)] false) [(⟨none, "a"⟩, none)] false) := rfl
  have shown : c.selected (Storage.get? store) s = .ok ⟨["a"], [row 3, row 2, row 1]⟩ := by
    rw [selected, planned]
    change Except.mapError _ (c.relation _ _) = _
    simp only [relation, scanned]
    rfl
  have all : c.execute store sql = (.ok (.rows ⟨["a"], [row 3, row 2, row 1]⟩), store) := by
    rw [execute_select parsed, shown]
    rfl
  obtain ⟨r, same, limited, -⟩ := (c.execute_limited store parsed rfl unclosed).2 _
    (congrArg Prod.fst all)
  cases same
  have comma : " LIMIT 1, 1" ∈ limitTexts 1 1 := by decide
  have word : " LIMIT 9223372036854775807 OFFSET 1" ∈ limitTexts 1 9223372036854775807 := by
    decide
  exact ⟨all, limited 1 (by decide) 1 (by decide) _ comma, limited 1 (by decide) _ (by decide) _ word⟩

end SqlStore
