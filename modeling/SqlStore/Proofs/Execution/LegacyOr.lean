import SqlStore.Proofs.Execution.Matching
import SqlStore.Proofs.Execution.SameRows

namespace SqlStore

open Query (Relation Scope)
open Sql (BinaryOp Expr FromItem Join Select Statement holdsAll)

/-! ## Conditions -/

namespace Sql

def BinaryOp.orAsAnd : BinaryOp → BinaryOp
  | .or => .and
  | op => op

def Expr.orAsAnd : Expr → Expr
  | .binary op l r => .binary op.orAsAnd l.orAsAnd r.orAsAnd
  | e => e

def Expr.operators : Expr → List BinaryOp
  | .binary op l r => op :: (l.operators ++ r.operators)
  | _ => []

theorem BinaryOp.holds_legacy (op : BinaryOp) (a b : Value) :
    op.holds .legacy a b = op.orAsAnd.holds .standard a b := by
  cases op <;> rfl

variable (s : Scope) (row : Record)

theorem Expr.value_legacy (e : Expr) : e.value .legacy s row = e.orAsAnd.value .standard s row := by
  induction e with
  | column c => rfl
  | literal l => rfl
  | call f arg => rfl
  | binary op l r ihl ihr => rw [value, ihl, ihr, op.holds_legacy, orAsAnd, value]

theorem Expr.holds_legacy (e : Expr) : e.holds .legacy s row = e.orAsAnd.holds .standard s row := by
  cases e with
  | column c => rfl
  | literal l => rfl
  | call f arg => rfl
  | binary op l r =>
      rw [holds, l.value_legacy, r.value_legacy, op.holds_legacy, orAsAnd, holds]

theorem holdsAll_legacy (condition? : Option Expr) :
    holdsAll .legacy s condition? row = holdsAll .standard s (condition?.map Expr.orAsAnd) row := by
  cases condition? with
  | none => rfl
  | some condition => exact condition.holds_legacy s row

theorem Expr.orAsAnd_eq_self {e : Expr} (none : .or ∉ e.operators) : e.orAsAnd = e := by
  induction e with
  | column c => rfl
  | literal l => rfl
  | call f arg => rfl
  | binary op l r ihl ihr =>
      simp only [operators, List.mem_cons, List.mem_append, not_or] at none
      obtain ⟨other, left, right⟩ := none
      have same : op.orAsAnd = op := by
        cases op with
        | or => exact absurd rfl other
        | _ => rfl
      rw [orAsAnd, same, ihl left, ihr right]

/-! ## Statements -/

def FromItem.orAsAnd (item : FromItem) : FromItem :=
  { item with join? := item.join?.map fun j => ⟨j.kind, j.on?.map Expr.orAsAnd⟩ }

def Select.orAsAnd (s : Select) : Select :=
  { s with tables := s.tables.map FromItem.orAsAnd, where? := s.where?.map Expr.orAsAnd }

/-- A statement with every OR in its conditions read as AND: those after `WHERE` and `ON`. -/
def Statement.orAsAnd : Statement → Statement
  | .select s => .select s.orAsAnd
  | .update table assignments where? => .update table assignments (where?.map Expr.orAsAnd)
  | .delete tables where? => .delete (tables.map FromItem.orAsAnd) (where?.map Expr.orAsAnd)
  | s => s

theorem FromItem.kind_orAsAnd (item : FromItem) : item.orAsAnd.kind = item.kind := by
  rw [kind, orAsAnd, Option.map_map]
  rfl

theorem FromItem.on?_orAsAnd (item : FromItem) :
    item.orAsAnd.on? = item.on?.map Expr.orAsAnd := by
  obtain ⟨name, alias?, join?⟩ := item
  cases join? <;> rfl

end Sql

/-! ## Commands -/

def Command.orAsAnd : Command → Command
  | .update name assignments where? => .update name assignments (where?.map Expr.orAsAnd)
  | .delete name where? => .delete name (where?.map Expr.orAsAnd)
  | command => command

namespace Connection

def inMode (c : Connection) (m : OrMode) : Connection :=
  { c with config := { c.config with orMode := m } }

variable (c : Connection) (view : View)

theorem rowHolds_legacy (t : Table) (where? : Option Expr) :
    t.rowHolds (c.inMode .legacy).config where? =
      t.rowHolds (c.inMode .standard).config (where?.map Expr.orAsAnd) :=
  funext fun _ => Sql.holdsAll_legacy _ _ where?

theorem runCommand_legacy (command : Command) : (c.inMode .legacy).runCommand view command =
    (c.inMode .standard).runCommand view command.orAsAnd := by
  cases command with
  | createTable name t => rfl
  | dropTable name ifExists => rfl
  | insert name columns? rows => rfl
  | update name assignments where? =>
      simp only [Command.orAsAnd, runCommand, update, rowHolds_legacy]
      rfl
  | delete name where? =>
      simp only [Command.orAsAnd, runCommand, delete, rowHolds_legacy]
      rfl

end Connection

theorem Plan.ofStatement_orAsAnd {s : Statement} (noSelect : ∀ q, s ≠ .select q) :
    Alike (fun p q => ∃ command, p = .command command ∧ q = .command command.orAsAnd)
      (ofStatement s) (ofStatement s.orAsAnd) := by
  cases s with
  | select q => exact absurd rfl (noSelect q)
  | createTable name columns => exact .after fun n => .after fun t => .ok ⟨_, rfl, rfl⟩
  | dropTable name ifExists => exact .after fun n => .ok ⟨_, rfl, rfl⟩
  | insert table columns? rows => exact .after fun n => .after fun values => .ok ⟨_, rfl, rfl⟩
  | update table assignments where? =>
      exact .after fun n => .after fun values => .ok ⟨_, rfl, rfl⟩
  | delete tables where? =>
      match tables with
      | [item] => exact .after fun n => .ok ⟨_, rfl, rfl⟩
      | [] => exact .error _
      | first :: second :: more =>
          have names : (first :: second :: more).map FromItem.name =
              ((first :: second :: more).map FromItem.orAsAnd).map FromItem.name := by
            rw [List.map_map]
            rfl
          simp only [ofStatement, Statement.orAsAnd, List.map_cons, names]
          exact .error _

/-! ## Rows of tables -/

namespace Connection

theorem join_legacy (on? : Option Expr) (keepLeft keepRight : Bool) (l r : Relation) :
    Relation.join .legacy on? keepLeft keepRight l r =
      Relation.join .standard (on?.map Expr.orAsAnd) keepLeft keepRight l r := by
  have pair (s : Scope) : Relation.pair? .legacy s on? =
      Relation.pair? .standard s (on?.map Expr.orAsAnd) := by
    funext a b
    rw [Relation.pair?, Relation.pair?, Sql.holdsAll_legacy]
  simp only [Relation.join, pair]

theorem filter_legacy (qualified : Bool) (condition : Expr) (r : Relation) :
    r.filter .legacy qualified condition = r.filter .standard qualified condition.orAsAnd := by
  simp only [Relation.filter, Sql.Expr.holds_legacy]

abbrev SameInModes (c : Connection) (view : View) : Plan → Plan → Prop :=
  SameRows (c.inMode .legacy) (c.inMode .standard) view

variable (c : Connection) (view : View)

theorem alike_ofTable (qualified : Bool) (item : FromItem) :
    Alike (c.SameInModes view) (Plan.ofTable qualified item)
      (Plan.ofTable qualified item.orAsAnd) :=
  .after fun _ => .ok rfl

theorem alike_joinTables {p q : Plan} (items : List FromItem) (same : c.SameInModes view p q) :
    Alike (c.SameInModes view) (items.foldlM Plan.joinTable p)
      ((items.map FromItem.orAsAnd).foldlM Plan.joinTable q) := by
  induction items generalizing p q with
  | nil => exact .ok same
  | cons item items ih =>
      rw [List.map_cons, List.foldlM_cons, List.foldlM_cons]
      refine .bind ?_ fun p q same => ih same
      rw [Plan.joinTable_eq, Plan.joinTable_eq, item.kind_orAsAnd, item.on?_orAsAnd]
      refine (c.alike_ofTable view true item).bind fun right right' same' => .ok ?_
      rw [SameInModes, SameRows, Plan.joined, Plan.joined, relation, relation, same, same']
      simp only [inMode, join_legacy]

theorem alike_ofTables (items : List FromItem) :
    Alike (c.SameInModes view) (Plan.ofTables items)
      (Plan.ofTables (items.map FromItem.orAsAnd)) := by
  cases items with
  | nil => exact .error _
  | cons item more =>
      rw [List.map_cons, Plan.ofTables, Plan.ofTables, List.isEmpty_map]
      exact (c.alike_ofTable view _ item).bind fun p q same => c.alike_joinTables view more same

theorem runStatement_select_legacy (s : Select) :
    (c.inMode .legacy).runStatement view (.select s) =
      (c.inMode .standard).runStatement view (.select s.orAsAnd) := by
  refine runStatement_sameRows (by rw [List.length_map]) ?_
  refine (c.alike_ofTables view s.tables).bind fun p q same => .ok ?_
  rw [Plan.filtered, Plan.filtered, List.length_map]
  cases s.where? with
  | none => exact same
  | some condition =>
      change relation _ view (.filter ..) = relation _ view (.filter ..)
      rw [relation, relation, same]
      simp only [inMode, filter_legacy]

theorem runStatement_legacy (s : Statement) : (c.inMode .legacy).runStatement view s =
    (c.inMode .standard).runStatement view s.orAsAnd := by
  by_cases select : ∃ q, s = .select q
  · obtain ⟨q, rfl⟩ := select
    exact c.runStatement_select_legacy view q
  · have planned := Plan.ofStatement_orAsAnd (not_exists.1 select)
    rw [runStatement, runStatement]
    obtain ⟨e, failed, failed'⟩ | ⟨p, q, made, made', command, rfl, rfl⟩ := planned.cases
    · rw [failed, failed']
    · rw [made, made']
      simp only [runPlan, runCommand_legacy]

end Connection

/-- The legacy mode reads every OR of a condition as AND, and does nothing else. A row satisfies a
condition under it, in whatever scope, if it satisfies under the standard mode what the condition is
with AND for OR; so both modes agree on a condition without OR. A request has the answer or error and
the changes that the standard mode has with AND for OR in its conditions, over every store. -/
theorem serve_legacy :
    (∀ (s : Scope) (row : Record) (condition? : Option Expr),
      holdsAll .legacy s condition? row =
        holdsAll .standard s (condition?.map Expr.orAsAnd) row) ∧
    (∀ (s : Scope) (row : Record) (e : Expr), .or ∉ e.operators →
      holdsAll .legacy s (some e) row = holdsAll .standard s (some e) row) ∧
    ∀ (c : Connection) (r : Request) (s : Statement), r.statement = .ok s →
      (∀ view, (c.inMode .legacy).effect view r =
        (c.inMode .standard).effect view (.tree s.orAsAnd)) ∧
      ∀ {σ : Type} [Storage σ] (store : σ),
        (c.inMode .legacy).serve store r = (c.inMode .standard).serve store (.tree s.orAsAnd) := by
  refine ⟨fun s row => Sql.holdsAll_legacy s row, fun s row e none => ?_, fun c r s parsed => ?_⟩
  · rw [Sql.holdsAll_legacy, Option.map_some, Expr.orAsAnd_eq_self none]
  · have effects (view : View) : (c.inMode .legacy).effect view r =
        (c.inMode .standard).effect view (.tree s.orAsAnd) := by
      rw [Connection.effect, parsed]
      exact c.runStatement_legacy view s
    refine ⟨effects, fun store => ?_⟩
    rw [Connection.serve_eq_commit, Connection.serve_eq_commit, effects]

theorem serve_legacy_delete :
    let c : Connection := ⟨"db", .default⟩
    let t : Table := ⟨"t", [⟨"a", .integer, 0, none, none⟩, ⟨"b", .integer, 1, none, none⟩]⟩
    let stored : List Row := [[.int 1, .int 3], [.int 1, .int 2], [.int 4, .int 2]]
    let view : View := fun key =>
      if key = c.definitionKey ⟨none, "t"⟩ then some t.definitionText
      else if key = c.rowsKey ⟨none, "t"⟩ then some (Row.storedText stored) else none
    let r : Request := .text "DELETE FROM t WHERE (a = 1 OR b = 2) = TRUE"
    let equals (name : String) (i : Int64) : Expr :=
      .binary .equal (.column ⟨none, name⟩) (.literal (.int i))
    let both : Expr :=
      .binary .equal (.binary .and (equals "a" 1) (equals "b" 2)) (.literal (.bool true))
    (c.inMode .legacy).effect view r =
        (c.inMode .standard).effect view (.tree (.delete [⟨"t", none, none⟩] (some both))) ∧
      (c.inMode .legacy).effect view r =
        ⟨[c.storeRows ⟨none, "t"⟩ [[.int 1, .int 3], [.int 4, .int 2]]],
          .ok (.changed (.deleted 1))⟩ ∧
      ∀ row, holdsAll .legacy .single (some both) row = holdsAll .standard .single (some both) row := by
  intro c t stored view r equals both
  let either : Expr :=
    .binary .equal (.binary .or (equals "a" 1) (equals "b" 2)) (.literal (.bool true))
  have parsed : r.statement = .ok (.delete [⟨"t", none, none⟩] (some either)) :=
    eq_ok_of_toOption (by decide +kernel)
  obtain ⟨-, alike, reads⟩ := serve_legacy
  have effect := (reads c r _ parsed).1 view
  have checked : t.check = .ok () := rfl
  have found : (c.inMode .standard).table? view ⟨none, "t"⟩ = .ok (some t) :=
    Connection.table?_definitionText checked (if_pos rfl)
  have exact : ∀ row ∈ stored, ∀ v ∈ row, v.exact := by decide
  have read : (c.inMode .standard).rows view ⟨none, "t"⟩ = .ok stored :=
    Connection.rows_of_exact exact rfl
  refine ⟨effect, ?_, fun row => alike .single row both (by decide)⟩
  have named : TableName.read? "t" = some ⟨none, "t"⟩ := rfl
  have deleted := Connection.runStatement_delete named found read (some both)
  have left : (stored.filter fun row => !t.rowHolds (c.inMode .standard).config (some both) row) =
      [[.int 1, .int 3], [.int 4, .int 2]] := by decide
  have count : stored.countP (t.rowHolds (c.inMode .standard).config (some both)) = 1 := by
    decide
  rw [left, count] at deleted
  exact effect.trans deleted

end SqlStore
