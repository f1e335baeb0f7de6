import SqlStore.Proofs.Execution.SortedOutput

/-!
# Plans with the same rows

What a `SELECT` shows depends on the rows of its tables that satisfy its condition, and not on the
plan by which they are found. So it is enough to compare these rows, also between two connections.
-/

namespace SqlStore

open Query (Relation)
open Sql (ColumnRef Direction Expr FromItem JoinKind Select)

/-! ## Joined tables -/

namespace Sql

def JoinKind.keepsLeft : JoinKind → Bool
  | .left | .full => true
  | _ => false

def JoinKind.keepsRight : JoinKind → Bool
  | .right | .full => true
  | _ => false

def FromItem.kind (item : FromItem) : JoinKind :=
  (item.join?.map Join.kind).getD .inner

def FromItem.on? (item : FromItem) : Option Expr :=
  item.join?.bind Join.on?

end Sql

namespace Plan

def joined (kind : JoinKind) (left right : Plan) (on? : Option Expr) : Plan :=
  .join left right on? kind.keepsLeft kind.keepsRight

theorem joinTable_eq (left : Plan) (item : FromItem) : joinTable left item = do
    return joined item.kind left (← ofTable true item) item.on? := by
  obtain ⟨name, alias?, join?⟩ := item
  rw [joinTable]
  refine congrArg (ofTable true ⟨name, alias?, join?⟩ >>= ·) (funext fun right => ?_)
  cases join? with
  | none => rfl
  | some j =>
      obtain ⟨kind, on?⟩ := j
      cases kind <;> rfl

end Plan

/-! ## The rows of a SELECT -/

namespace Connection

/-- Two plans that find the same rows or fail in the same way, each through a connection of its
own. -/
def SameRows (c d : Connection) (view : View) (p q : Plan) : Prop :=
  c.relation view p = d.relation view q

namespace SameRows

variable {c d : Connection} {view : View} {p q : Plan} (same : SameRows c d view p q)
include same

theorem sorted (keys : List (ColumnRef × Direction)) (qualified : Bool) :
    SameRows c d view (if keys.isEmpty then p else .order p keys qualified)
      (if keys.isEmpty then q else .order q keys qualified) := by
  rw [SameRows, relation_sorted, relation_sorted, same]

theorem operated (s : Select) (qualified : Bool) (keys : List (ColumnRef × Direction)) :
    Alike (SameRows c d view) (Plan.operated s qualified p keys)
      (Plan.operated s qualified q keys) := by
  rw [Plan.operated, Plan.operated]
  split
  · refine .after fun keys => .ok (sorted ?_ keys false)
    rw [SameRows, relation, relation, same]
  · refine .after fun items => .ok ?_
    split
    · exact sorted same _ qualified
    · rw [SameRows, relation, relation, sorted same]

theorem limited (s : Select) :
    Alike (SameRows c d view) (Plan.limited s p) (Plan.limited s q) := by
  rw [Plan.limited, Plan.limited]
  split
  · refine .after fun ns => ?_
    split
    · refine .ok ?_
      rw [SameRows, relation_window, relation_window, same]
    · exact .error _
  · exact .ok same

end SameRows

variable {c d : Connection} {view : View}

theorem runStatement_sameRows {s : Select} {tables : List FromItem} {where? : Option Expr}
    (several : 1 < tables.length ↔ 1 < s.tables.length)
    (rows : Alike (SameRows c d view) ((Plan.ofTables s.tables).map (Plan.filtered s))
      ((Plan.ofTables tables).map (Plan.filtered { s with tables, where? }))) :
    c.runStatement view (.select s) =
      d.runStatement view (.select { s with tables, where? }) := by
  have planned : Alike (SameRows c d view) (Plan.ofSelect s)
      (Plan.ofSelect { s with tables, where? }) := by
    rw [Plan.ofSelect_eq, Plan.ofSelect_eq, decide_eq_decide.2 several]
    refine rows.bind fun p q same => .after fun keys => ?_
    exact (same.operated s _ keys).bind fun p q same => same.limited s
  rw [runStatement_select, runStatement_select, selected, selected]
  obtain ⟨e, failed, failed'⟩ | ⟨p, q, made, made', same⟩ := planned.cases
  · rw [failed, failed']
    rfl
  · rw [made, made']
    exact congrArg (fun found : Except Failure Relation =>
      (⟨[], (found.mapError Failure.error).map Answer.rows⟩ : Effect)) same

end Connection

end SqlStore
