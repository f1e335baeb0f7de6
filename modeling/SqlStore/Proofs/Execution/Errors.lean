import SqlStore.Proofs.Plan.Errors
import SqlStore.Proofs.Query.Grouping
import SqlStore.Proofs.Execution.Session

namespace SqlStore

open Error (Covers)
open Sql (Expr Statement)

variable {P : Error → Prop} {shape : Prop}

/-! ## Rows -/

namespace Table

variable (covers : Covers P shape) (p : NumericPolicy)
include covers

theorem encode_fails (c : Column) (v : Value) : FailsWith P (c.encode p v) := by
  unfold Column.encode
  split
  · exact .ok _
  · exact .error (covers.ordinary rfl)

variable (t : Table)

theorem column_fails (name : String) : FailsWith P (t.column name) := by
  rw [column]
  split
  · exact .ok _
  · exact .error (covers.ordinary rfl)

theorem fillRow_fails (targets : List (Column × Value)) : FailsWith P (t.fillRow p targets) := by
  refine .foldlM (fun row target => ?_) _ _
  exact .bind (encode_fails covers p target.1 target.2) fun s _ => .ok _

theorem newRow_fails (columns? : Option (List String)) (vs : List Value) :
    FailsWith P (t.newRow p columns? vs) := by
  cases columns? with
  | none =>
      rw [newRow, rowOfValues]
      split
      · exact .error (covers.ordinary rfl)
      · exact fillRow_fails covers p t _
  | some names =>
      rw [newRow, rowOfColumns]
      split
      · exact .error (covers.ordinary rfl)
      · refine .bind (.mapM fun name _ => column_fails covers t name) fun columns _ => ?_
        exact fillRow_fails covers p t _

theorem assignment_fails (name : String) (v : Value) : FailsWith P (t.assignment p name v) := by
  refine .bind (column_fails covers t name) fun c _ => ?_
  split
  · exact .error (covers.ordinary rfl)
  · exact .bind (encode_fails covers p c v) fun s _ => .ok _

end Table

/-! ## Groups -/

theorem Sql.Expr.isAggregate_of_isSelectable {e : Expr} (selectable : e.isSelectable) :
    Query.isAggregate e := by
  cases e with
  | column => rfl
  | call f arg =>
      cases f with
      | count => rfl
      | sum =>
          cases arg with
          | some column => rfl
          | none => cases selectable
  | literal | binary => cases selectable

theorem Query.Relation.aggregate_notAggregate {r : Query.Relation} {items groupBy qualified} {e}
    (failed : r.aggregate items groupBy qualified = .error (.notAggregate e)) :
    ∃ item ∈ items, ¬ Query.isAggregate item.1 := by
  by_contra none
  simp only [not_exists, not_and, Classical.not_not] at none
  obtain ⟨v, c, ⟨⟩⟩ := fault_of_aggregate none failed

/-! ## Commands and plans -/

namespace Connection

variable {c : Connection} {view : View}

structure ReadsWith (c : Connection) (view : View) (P : Error → Prop) : Prop where
  table? (name : TableName) : FailsWith P (c.table? view name)
  rows {name : TableName} {t : Table} : c.table view name = .ok t → FailsWith P (c.rows view name)

namespace ReadsWith

theorem ofCorrupt (covers : Covers P shape) (corrupt : ∀ e, e.isCorrupt → P e) :
    c.ReadsWith view P where
  table? name := by
    rw [Connection.table?]
    split
    · exact .ok _
    · split
      · exact .error (corrupt _ rfl)
      · exact .map _ (.mapError fun fault _ => covers.ordinary rfl)
  rows _ := by
    refine .bind ?_ fun found _ => .ok _
    rw [Connection.rows?]
    split
    · exact .ok _
    · split
      · exact .ok _
      · split
        · exact .ok _
        · exact .error (corrupt _ rfl)

variable (reads : c.ReadsWith view P) (covers : Covers P shape)
include reads covers

theorem table (name : TableName) : FailsWith P (c.table view name) := by
  refine .bind (reads.table? name) fun found _ => ?_
  cases found with
  | none => exact .error (covers.ordinary rfl)
  | some t => exact .ok t

theorem runCommand (command : Command) : FailsWith P (c.runCommand view command) := by
  cases command with
  | createTable name t =>
      refine .bind (reads.table? name) fun found _ => ?_
      split
      · exact .error (covers.ordinary rfl)
      · exact .bind (.mapError fun fault _ => covers.ordinary rfl) fun _ _ => .ok _
  | dropTable name ifExists =>
      refine .bind (reads.table? name) fun found _ => ?_
      cases found with
      | some t => exact .ok _
      | none =>
          dsimp only
          split
          · exact .ok _
          · exact .error (covers.ordinary rfl)
  | insert name columns? rows =>
      refine .bind (reads.table covers name) fun t found => .bind (reads.rows found) fun old _ => ?_
      exact .bind (.mapM fun vs _ => Table.newRow_fails covers _ t _ vs) fun new _ => .ok _
  | update name assignments where? =>
      refine .bind (reads.table covers name) fun t found => ?_
      refine .bind (.mapM fun e _ => Table.assignment_fails covers _ t e.1 e.2) fun assigned _ => ?_
      exact .bind (reads.rows found) fun stored _ => .ok _
  | delete name where? =>
      refine .bind (reads.table covers name) fun t found => ?_
      exact .bind (reads.rows found) fun stored _ => .ok _

omit covers

theorem relation {plan : Plan} (noCommand : plan.reads) (covers : Covers P plan.isQuery) :
    FailsWith (fun failure : Failure => P failure.error) (c.relation view plan) := by
  induction plan with
  | command command => cases noCommand
  | scan name source? =>
      have scanned : FailsWith P (c.scan view name source?) :=
        .bind (reads.table covers name) fun t found => .bind (reads.rows found) fun rows _ => .ok _
      exact .mapError scanned
  | join left right on? keepLeft keepRight ihLeft ihRight =>
      rw [Plan.reads, Bool.and_eq_true] at noCommand
      have both : (Plan.join left right on? keepLeft keepRight).isQuery →
          left.isQuery ∧ right.isQuery := fun tables =>
        (Bool.and_eq_true_iff.1 tables).imp Plan.isQuery_of_isTables Plan.isQuery_of_isTables
      refine .bind (ihLeft noCommand.1 (covers.mono fun query => (both query).1)) fun l _ => ?_
      exact .bind (ihRight noCommand.2 (covers.mono fun query => (both query).2)) fun r _ => .ok _
  | aggregate source items groupBy qualified ih =>
      have both : (Plan.aggregate source items groupBy qualified).isQuery →
          source.isQuery ∧ ∀ item ∈ items, Query.isAggregate item.1 := fun query =>
        (Bool.and_eq_true_iff.1 query).imp_right List.all_eq_true.1
      refine .bind (ih noCommand (covers.mono fun query => (both query).1)) fun r _ => ?_
      refine .mapError fun fault failed => ?_
      cases fault with
      | notSummable v column => exact covers.ordinary rfl
      | notAggregate e =>
          refine covers.against rfl fun query => ?_
          obtain ⟨item, mem, none⟩ := Query.Relation.aggregate_notAggregate failed
          exact none ((both query).2 item mem)
  | filter source _ _ ih | project source _ _ ih | order source _ _ ih | offset source _ ih
  | limit source _ ih => exact .bind (ih noCommand covers) fun r _ => .ok _

theorem runPlan {plan : Plan} (noCommand : plan.reads) (covers : Covers P plan.isQuery) :
    FailsWith P (c.runPlan view plan).answer := by
  have fails := reads.relation noCommand covers
  cases plan with
  | command command => cases noCommand
  | _ =>
      simp only [Connection.runPlan]
      split
      · exact .ok _
      · rename_i failed
        exact .error (fails _ failed)

theorem runStatement {s : Statement} (covers : Covers P s.Writable) :
    FailsWith P (c.runStatement view s).answer := by
  rw [Connection.runStatement]
  cases built : Plan.ofStatement s with
  | error e => exact .error (Plan.ofStatement_fails covers e built)
  | ok plan =>
      rcases Plan.ofStatement_cases built with ⟨q, rfl⟩ | ⟨command, rfl⟩
      · refine reads.runPlan (Plan.ofSelect_reads built) (covers.mono fun writable => ?_)
        refine Plan.ofSelect_isQuery (fun item mem => ?_) built
        exact Expr.isAggregate_of_isSelectable (writable.items item mem)
      · have fails := reads.runCommand covers command
        simp only [Connection.runPlan]
        split
        · exact .ok _
        · exact .error (fails _ ‹_›)

end ReadsWith

theorem run_unguarded (c : Connection) (view : View) (sql : String) :
    FailsWith (fun e => e.isGuard = false) (c.run view sql).answer := by
  rw [run]
  cases parsed : Statement.parse sql with
  | error e => exact .error rfl
  | ok s =>
      have covers : Covers (fun e => e.isGuard = false) s.Writable :=
        .notGuard (Statement.writable_of_parse parsed)
      have reads : c.ReadsWith view fun e => e.isGuard = false := by
        refine .ofCorrupt covers fun e corrupt => ?_
        cases e with
        | corruptSchema | corruptRows => rfl
        | _ => cases corrupt
      exact reads.runStatement covers

end Connection

/-- No text meets an error behind a guard, under any policies and over any store, whether its
changes are made or not. A text that is planned is a command, or a query: operators over scans and
joins alone, of which those that aggregate have a value for every item. -/
theorem execute_unguarded (c : Connection) (sql : String) :
    (∀ view e, (c.run view sql).answer = .error e → e.isGuard = false) ∧
    (∀ (σ : Type) [Storage σ] (s : σ) e, (c.execute s sql).1 = .error e → e.isGuard = false) ∧
    (∀ s plan, Statement.parse sql = .ok s → Plan.ofStatement s = .ok plan →
      plan.isQuery ∨ ∃ command, plan = .command command) := by
  refine ⟨fun view => c.run_unguarded view sql, ?_, ?_⟩
  · intro σ _ s e failed
    rw [Connection.execute, Effect.commit] at failed
    split at failed
    · exact c.run_unguarded _ sql e failed
    · cases failed
      rfl
  · intro s plan parsed built
    rcases Plan.ofStatement_cases built with ⟨q, rfl⟩ | command
    · have writable : q.Writable := Statement.writable_of_parse parsed
      exact .inl <| Plan.ofSelect_isQuery
        (fun item mem => Expr.isAggregate_of_isSelectable (writable.items item mem)) built
    · exact .inr command

theorem execute_unguarded_count :
    let c : Connection := ⟨"db", .default⟩
    let sql := "SELECT COUNT(*) FROM t LIMIT 1"
    let e : Error := .unknownTable ⟨none, "t"⟩
    (c.execute Memory.empty sql).1 = .error e ∧ e.isGuard = false ∧
      ∃ s plan, Statement.parse sql = .ok s ∧ Plan.ofStatement s = .ok plan ∧ plan.isQuery := by
  intro c sql e
  let s : Statement := .select ⟨[(.call .count none, none)], [⟨"t", none, none⟩], none, [], [],
    some [.literal (.int 0), .literal (.int 1)]⟩
  let plan : Plan := .limit (.aggregate (.scan ⟨none, "t"⟩ none) [(.call .count none, none)] []
    false) 1
  have parsed : Statement.parse sql = .ok s := by
    have found : (Statement.parse sql).toOption = some s := by decide +kernel
    cases parsed : Statement.parse sql <;> rw [parsed] at found <;> cases found
    rfl
  have built : Plan.ofStatement s = .ok plan := rfl
  have failed : (c.execute Memory.empty sql).1 = .error e := by
    rw [Connection.execute, Connection.run, parsed]
    simp only [Connection.runStatement, built]
    rfl
  obtain ⟨-, unguarded, planned⟩ := execute_unguarded c sql
  refine ⟨failed, unguarded Memory Memory.empty e failed, s, plan, parsed, built, ?_⟩
  exact (planned s plan parsed built).resolve_right nofun

end SqlStore
