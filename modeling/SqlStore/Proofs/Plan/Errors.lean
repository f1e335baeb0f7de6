import SqlStore.Proofs.Plan
import SqlStore.Proofs.Sql.Writable

/-!
# Errors of planning

Errors are of three sorts: about a stored text that can not be read, behind a guard that the shape
of statements rules out, and all others. Planning never meets the first sort, and meets the second
only in statements that can not be written.
-/

namespace SqlStore

open Sql (ColumnDecl Direction Expr FromItem Select Statement)

/-! ## Sorts of errors -/

namespace Error

def isCorrupt : Error → Bool
  | .corruptSchema _ | .corruptRows _ => true
  | _ => false

/-- Whether an error is raised only where a statement or a plan has a shape that none should
have. -/
def isGuard : Error → Bool
  | .noTables | .notLiteral _ | .notSelectable _ | .limitArguments _ | .notRows _
  | .notGrouped (.notAggregate _) => true
  | _ => false

def isOrdinary (e : Error) : Bool :=
  !e.isCorrupt && !e.isGuard

/-- A property that ordinary errors have, and those behind a guard have unless a shape holds. -/
structure Covers (P : Error → Prop) (shape : Prop) : Prop where
  ordinary {e : Error} : e.isOrdinary → P e
  guard {e : Error} : e.isGuard → shape ∨ P e

namespace Covers

variable {P : Error → Prop} {shape shape' : Prop}

theorem mono (covers : Covers P shape) (imp : shape → shape') : Covers P shape' :=
  ⟨covers.ordinary, fun guard => (covers.guard guard).imp_left imp⟩

theorem against (covers : Covers P shape) {e : Error} (guard : e.isGuard) (not : ¬ shape) : P e :=
  (covers.guard guard).resolve_left not

theorem notCorrupt : Covers (fun e => e.isCorrupt = false) shape where
  ordinary ordinary := by
    rw [isOrdinary, Bool.and_eq_true, Bool.not_eq_true', Bool.not_eq_true'] at ordinary
    exact ordinary.1
  guard {e} guard := by
    right
    cases e with
    | corruptSchema | corruptRows => cases guard
    | _ => rfl

theorem notGuard (holds : shape) : Covers (fun e => e.isGuard = false) shape where
  ordinary ordinary := by
    rw [isOrdinary, Bool.and_eq_true, Bool.not_eq_true', Bool.not_eq_true'] at ordinary
    exact ordinary.2
  guard _ := .inl holds

end Covers

end Error

open Error (Covers)

variable {P : Error → Prop}

/-! ## Names, constants and columns -/

theorem TableName.read_fails {shape : Prop} (covers : Covers P shape) (name : String) :
    FailsWith P (TableName.read name) := by
  rw [TableName.read]
  split
  · exact .ok _
  · exact .error (covers.ordinary rfl)

namespace Plan

theorem constant_fails {e : Expr} (covers : Covers P e.isLiteral) : FailsWith P (constant e) := by
  unfold constant
  split
  · exact .ok _
  · rename_i other
    refine .error (covers.against rfl fun literal => ?_)
    cases e with
    | literal l => exact other l rfl
    | _ => cases literal

variable {shape : Prop} (covers : Covers P shape)
include covers

theorem declaredColumn_fails (d : ColumnDecl) (i : Nat) : FailsWith P (declaredColumn d i) := by
  unfold declaredColumn
  cases Column.ofType? d.name d.typeName d.args (UInt64.ofNat i) with
  | some c => exact .ok c
  | none => exact .error (covers.ordinary rfl)

theorem declaredTable_fails (name : TableName) (declared : List ColumnDecl) :
    FailsWith P (declaredTable name declared) := by
  refine .bind (.mapM fun d _ => ?_) fun columns _ => .mapError fun fault _ => covers.ordinary rfl
  exact declaredColumn_fails covers d.1 d.2

theorem ofTable_fails (qualified : Bool) (item : FromItem) :
    FailsWith P (ofTable qualified item) :=
  .bind (TableName.read_fails covers _) fun _ _ => .ok _

theorem sortColumn_fails (key : Expr × Direction) : FailsWith P (sortColumn key) := by
  rw [sortColumn]
  split
  · exact .ok _
  · exact .error (covers.ordinary rfl)

theorem aggregateSorted_fails (source : Plan) (s : Select) (keys) (qualified : Bool) :
    FailsWith P (aggregateSorted source s keys qualified) := by
  refine .bind (.mapM fun key _ => ?_) fun keys _ => .ok _
  rw [outputKey]
  split
  · exact .ok _
  · exact .error (covers.ordinary rfl)

omit covers

/-! ## Select lists and windows -/

theorem ofTables_fails {items : List FromItem} (covers : Covers P (Sql.WritableTables items)) :
    FailsWith P (ofTables items) := by
  cases items with
  | nil => exact .error (covers.against rfl id)
  | cons item items =>
      refine .bind (ofTable_fails covers _ item) fun first _ => .foldlM (fun left item => ?_) _ _
      exact .bind (ofTable_fails covers _ item) fun right _ => .ok _

theorem projectSorted_fails {s : Select} (covers : Covers P (∀ item ∈ s.items, item.1.isSelectable))
    (noCalls : ¬ s.items.any isCall) (source : Plan) (keys) (qualified : Bool) :
    FailsWith P (projectSorted source s keys qualified) := by
  refine .bind (.mapM fun item mem => ?_) fun items _ => .ok _
  rw [selectedColumn]
  split
  · exact .ok _
  · rename_i other
    refine .error (covers.against rfl fun selectable => ?_)
    have selectable := selectable item mem
    obtain ⟨e, alias?⟩ := item
    cases e with
    | column c => exact other c rfl
    | call f arg => exact noCalls (List.any_eq_true.2 ⟨_, mem, rfl⟩)
    | literal | binary => cases selectable

theorem window_fails {arguments : List Expr} (covers : Covers P (arguments.length = 2))
    (source : Plan) : FailsWith P (window source arguments) := by
  refine .bind (.mapM fun e _ => ?_) fun ns counted => ?_
  · unfold limitArgument
    split
    · split
      · exact .ok _
      · exact .error (covers.ordinary rfl)
    · exact .error (covers.ordinary rfl)
  · have length := length_of_mapM_eq_ok counted
    split
    · exact .ok _
    · rename_i other
      refine .error (covers.against rfl fun two => ?_)
      match ns, length.trans two with
      | [start, count], _ => exact other start count rfl

/-! ## Statements -/

theorem ofSelect_fails {s : Select} (covers : Covers P s.Writable) : FailsWith P (ofSelect s) := by
  have limited {arguments : List Expr} (eq : s.limit? = some arguments) :
      Covers P (arguments.length = 2) :=
    covers.mono fun writable => (writable.limit? arguments eq).1
  rw [ofSelect_eq]
  refine .bind (.map _ (ofTables_fails (covers.mono Select.Writable.tables))) fun source _ => ?_
  refine .bind (.mapM fun key _ => sortColumn_fails covers key) fun keys _ => ?_
  refine .bind ?_ fun shown _ => ?_
  · rw [operated]
    split
    · exact aggregateSorted_fails covers _ _ _ _
    · rename_i noCalls
      exact projectSorted_fails (covers.mono Select.Writable.items) noCalls _ _ _
  · rw [Plan.limited]
    split
    · exact window_fails (limited ‹_›) _
    · exact .ok _

theorem ofStatement_fails {s : Statement} (covers : Covers P s.Writable) :
    FailsWith P (ofStatement s) := by
  cases s with
  | select s => exact ofSelect_fails covers
  | createTable name columns =>
      exact .bind (TableName.read_fails covers _) fun n _ =>
        .bind (declaredTable_fails covers n columns) fun t _ => .ok _
  | dropTable name ifExists => exact .bind (TableName.read_fails covers _) fun n _ => .ok _
  | insert name columns? rows =>
      refine .bind (TableName.read_fails covers _) fun n _ => .bind ?_ fun values _ => .ok _
      refine .mapM fun row mem => .mapM fun e mem' => constant_fails ?_
      exact covers.mono fun writable => (writable.2.2 row mem).2 e mem'
  | update name assignments where? =>
      refine .bind (TableName.read_fails covers _) fun n _ => .bind ?_ fun values _ => .ok _
      refine .bind (.mapM fun a mem => ?_) fun entries _ => .ok _
      have covers := covers.mono fun writable => writable.1.2 a mem
      exact .bind (constant_fails covers) fun v _ => .ok _
  | delete tables where? =>
      match tables with
      | [item] => exact .bind (TableName.read_fails covers _) fun n _ => .ok _
      | [] => exact .error (covers.ordinary rfl)
      | _ :: _ :: _ => exact .error (covers.ordinary rfl)

end Plan

end SqlStore
